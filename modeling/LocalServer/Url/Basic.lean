/-!
# Addresses

An **address** is a URL with a scheme and an authority, cut into its five
components. The components are kept as they were written, but for the
scheme, which is in lower case. `Url.toChars` writes an address out again;
a query or a fragment that is empty leaves no mark, so that `?` or `#` at
the end of an address vanish when it is written.
-/

namespace LocalServer

/-- **An address**, cut into its components. -/
structure Url where
  /-- The scheme, in lower case. -/
  scheme : List Char
  /-- What stands between `//` and the path: an optional user and an `@`,
  the host, and an optional `:` and port. -/
  authority : List Char
  /-- The path: empty, or starting with `/`. -/
  path : List Char
  /-- What follows the first `?`, up to the fragment. -/
  query : List Char
  /-- What follows the first `#`. -/
  fragment : List Char
deriving DecidableEq, Repr

namespace Url

/-- A component that is left out, together with the mark before it, when it
is empty. -/
def marked (mark : Char) : List Char → List Char
  | [] => []
  | c :: cs => mark :: c :: cs

@[simp] theorem marked_nil (mark : Char) : marked mark [] = [] := rfl

@[simp] theorem marked_cons (mark c : Char) (cs : List Char) :
    marked mark (c :: cs) = mark :: c :: cs := rfl

/-- **The written form** of an address. -/
def toChars (u : Url) : List Char :=
  u.scheme ++ ':' :: '/' :: '/' :: u.authority
    ++ u.path ++ marked '?' u.query ++ marked '#' u.fragment

/-- The characters after the first of a scheme. -/
def isSchemeChar (c : Char) : Bool :=
  c.isAlphanum || c == '+' || c == '-' || c == '.'

/-- A scheme is a letter followed by letters, digits, `+`, `-` and `.`,
all of ASCII. -/
def isScheme : List Char → Bool
  | [] => false
  | c :: cs => c.isAlpha && cs.all isSchemeChar

/-- The characters that end an authority. -/
def endsAuthority (c : Char) : Bool :=
  c == '/' || c == '?' || c == '#'

end Url

end LocalServer
