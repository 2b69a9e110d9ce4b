import LocalServer.Text.Blank
import LocalServer.Url.Authority
import LocalServer.Url.Basic

/-!
# Reading an address

A text is first cleaned: blanks around it, characters up to `U+0020` before
it, and every tab, line feed and carriage return within it are removed. It
is then cut at the first `:`, at the end of the authority, at the first `#`
and at the first `?`. `Url.split?` succeeds exactly when the scheme is one
and the authority names a server.
-/

namespace LocalServer.Url

open Text

/-- The characters that are deleted wherever they stand. -/
def isDeleted (c : Char) : Bool :=
  c == '\t' || c == '\n' || c == '\r'

/-- **The cleaned text** of an address. -/
def clean (raw : List Char) : List Char :=
  ((trim raw).dropWhile fun c => c.toNat ≤ 0x20).filter fun c => !isDeleted c

/-- What follows an authority, cut into path, query and fragment: the
fragment starts at the first `#`, the query at the first `?` before it. -/
def splitTail (cs : List Char) : List Char × List Char × List Char :=
  let (front, fragment) := cutAt '#' cs
  let (path, query) := cutAt '?' front
  (path, query, fragment)

/-- The components of an address that has been cleaned, whatever its
authority is. -/
def components? (cs : List Char) : Option Url :=
  let (scheme, rest) := cutAt ':' cs
  match rest with
  | '/' :: '/' :: rest =>
    if isScheme scheme && ':' ∈ cs then
      let (path, query, fragment) := splitTail (rest.dropWhile fun c => !endsAuthority c)
      some ⟨scheme.map Char.toLower, rest.takeWhile fun c => !endsAuthority c,
        path, query, fragment⟩
    else none
  | _ => none

/-- **Reading an address.** -/
def split? (raw : List Char) : Option Url :=
  (components? (clean raw)).filter fun u => isAdmissible u.authority

/-- Whatever is read has an authority that names a server. -/
theorem isAdmissible_of_split? {raw : List Char} {u : Url} (h : split? raw = some u) :
    isAdmissible u.authority = true := by
  simp only [split?, Option.filter_eq_some_iff] at h
  exact h.2

end LocalServer.Url
