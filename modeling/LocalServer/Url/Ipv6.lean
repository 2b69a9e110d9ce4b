import LocalServer.Text.Cut
import LocalServer.Text.HexDigit

/-!
# Literal network addresses

Inside brackets an authority holds an IPv6 address in its text form: eight
groups of up to four hexadecimal digits, of which one run may be replaced
by `::` and the last two may be written as a dotted IPv4 address. A zone
may follow after `%`. The text form of later versions starts with `v`.

Only whether a text is such a literal matters here, not the number that it
denotes.
-/

namespace LocalServer.Url

open Text

/-- One group of an IPv6 address: one to four hexadecimal digits. -/
def isGroup (cs : List Char) : Bool :=
  !cs.isEmpty && cs.length ≤ 4 && cs.all isHexDigit

/-- One octet of an IPv4 address: a number up to 255 without needless
zeros. -/
def isOctet (cs : List Char) : Bool :=
  !cs.isEmpty && cs.length ≤ 3 && cs.all Char.isDigit
    && (cs == ['0'] || cs.head? != some '0')
    && Nat.ofDigitChars 10 cs 0 ≤ 255

/-- A dotted IPv4 address. -/
def isIpv4 (cs : List Char) : Bool :=
  let octets := pieces '.' cs
  octets.length == 4 && octets.all isOctet

/-- The number of groups on one side of `::`. The side that is a single
empty piece has none; all pieces of another side are groups. -/
def sideGroups? (side : List (List Char)) : Option Nat :=
  if side == [[]] then some 0
  else if side.all isGroup then some side.length
  else none

/-- The pieces between the colons, with a dotted address at the end
counted as two groups. -/
def groupPieces? (cs : List Char) : Option (List (List Char)) :=
  let ps := pieces ':' cs
  let tail := ps.getLastD []
  if ps.length < 3 then none
  else if '.' ∈ tail then
    if isIpv4 tail then some (ps.dropLast ++ [['0'], ['0']]) else none
  else some ps

/-- The positions, other than the two ends, at which a piece is empty. -/
def gaps (ps : List (List Char)) : List Nat :=
  (List.range ps.length).filter fun i =>
    0 < i && i + 1 < ps.length && ps[i]? == some []

/-- **An IPv6 address without a zone.** Without `::` there are exactly
eight groups; `::` stands once, for at least one group. -/
def isIpv6Number (cs : List Char) : Bool :=
  match groupPieces? cs with
  | none => false
  | some ps =>
    match gaps ps with
    | [] => ps.length == 8 && ps.all isGroup
    | [i] =>
      match sideGroups? (ps.take i), sideGroups? (ps.drop (i + 1)) with
      | some hi, some lo => hi + lo < 8
      | _, _ => false
    | _ => false

/-- **An IPv6 address**, with the zone after `%` if there is one. A zone is
not empty and holds no second `%`. -/
def isIpv6 (cs : List Char) : Bool :=
  if '%' ∈ cs then
    let (number, zone) := cutAt '%' cs
    !zone.isEmpty && '%' ∉ zone && isIpv6Number number
  else isIpv6Number cs

/-- The text form that is kept for later versions: `v`, the version in
hexadecimal digits, a dot, and at least one more character. -/
def isFutureLiteral : List Char → Bool
  | 'v' :: cs =>
    match cs.takeWhile isHexDigit, cs.dropWhile isHexDigit with
    | _ :: _, '.' :: _ :: _ => true
    | _, _ => false
  | _ => false

/-- What may stand between brackets. A text that starts with `v` is judged
as a later version only. -/
def isLiteral (cs : List Char) : Bool :=
  if cs.head? = some 'v' then isFutureLiteral cs else isIpv6 cs

end LocalServer.Url
