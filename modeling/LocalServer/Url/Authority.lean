import LocalServer.Text.Cut
import LocalServer.Text.DecimalDigit
import LocalServer.Url.Compatibility
import LocalServer.Url.Ipv6

/-!
# Authorities

An authority names a server: a user and an `@` may come first, then the
host, then `:` and a port. The user ends at the *last* `@`. A host in
brackets may hold colons; any other host ends at its first colon.

`isAdmissible` says which texts are authorities of an address: the brackets
hold a literal network address, no character hides a delimiter, there is a
host, and the port is absent or a number up to 65535.
-/

namespace LocalServer.Url

open Text

/-- The part of an authority after its last `@`. -/
def hostPart (authority : List Char) : List Char :=
  afterLast '@' authority

/-- The user, if there is an `@`. -/
def user? (authority : List Char) : Option (List Char) :=
  if '@' ∈ authority then some (beforeLast '@' authority) else none

/-- The host, without brackets, and the text of the port, which is empty
when there is no port. -/
def hostAndPort (authority : List Char) : List Char × List Char :=
  let part := hostPart authority
  if '[' ∈ part then
    let (host, rest) := cutAt ']' (cutAt '[' part).2
    (host, (cutAt ':' rest).2)
  else cutAt ':' part

/-- The host of an authority, without brackets. -/
def host (authority : List Char) : List Char :=
  (hostAndPort authority).1

/-- The greatest port. -/
def greatestPort : Nat := 65535

/-- **Reading a port.** The empty text is the absence of a port; any other
text must be a run of digits of ASCII, no longer than `digitLimit`, for a
number up to `greatestPort`. -/
def readPort? (text : List Char) : Option (Option Nat) :=
  if text.isEmpty then some none
  else if text.all Char.isDigit && text.length ≤ digitLimit
      && Nat.ofDigitChars 10 text 0 ≤ greatestPort then
    some (some (Nat.ofDigitChars 10 text 0))
  else none

/-- The port of an authority: `none` if its text is no port, `some none` if
there is none. -/
def port? (authority : List Char) : Option (Option Nat) :=
  readPort? (hostAndPort authority).2

/-- **Brackets.** An opening bracket wants a closing one and the other way
round. Nothing stands before the brackets of the host, only a port after
them, and what they hold is a literal network address; if the brackets are
all in the part of the user then the host itself must be such a literal. -/
def bracketsFit (authority : List Char) : Bool :=
  if '[' ∈ authority ∨ ']' ∈ authority then
    let part := hostPart authority
    let (before, inside) := cutAt '[' part
    let after := (cutAt ']' inside).2
    '[' ∈ authority && ']' ∈ authority
      && ('[' ∉ part || before.isEmpty && (after.isEmpty || after.head? == some ':'))
      && isLiteral (host authority)
  else true

/-- **An authority that names a server.** -/
def isAdmissible (authority : List Char) : Bool :=
  bracketsFit authority && !authority.any hidesDelimiter
    && !(host authority).isEmpty && (port? authority).isSome

end LocalServer.Url
