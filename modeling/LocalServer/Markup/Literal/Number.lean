import LocalServer.Text.Cut
import LocalServer.Text.DecimalDigit
import LocalServer.Text.HexDigit

/-!
# The numbers of a literal

A number is written in digits, which single underscores may divide, as
`1_000`, `0x1f`, `2.5e-3` or, if it is imaginary, `4j`.

Of its value only so much counts as decides whether it can be added to an
imaginary number: that is done in floating point, which a whole number may
be too great for.
-/

namespace LocalServer.Markup.Literal

open Text

/-- **The kinds of numbers.** -/
inductive NumberKind where
  /-- A real number that an imaginary one can be added to. -/
  | real
  /-- A whole number that is too great for that. -/
  | great
  /-- An imaginary number. -/
  | imaginary
deriving DecidableEq, Repr

/-- The characters of numbers and names. All that are not of ASCII belong to
them. -/
def isNameChar (c : Char) : Bool :=
  c.isAlphanum || c == '_' || 0x80 ≤ c.toNat

/-- Whether a text consists of digits of a base, of which single underscores
may make groups. -/
def areDigits (base : Nat) (cs : List Char) : Bool :=
  (Text.pieces '_' cs).all fun group =>
    !group.isEmpty && group.all fun c => isHexDigit c && hexValue c < base

/-- The base that a letter behind a `0` stands for. -/
def base? : Char → Option Nat
  | 'x' | 'X' => some 16
  | 'o' | 'O' => some 8
  | 'b' | 'B' => some 2
  | _ => none

/-- The least whole number that rounds to one beyond all floating-point
numbers of 64 bits. -/
def leastGreat : Nat :=
  Nat.pow 2 1024 - Nat.pow 2 970

/-- The kind of the whole number that digits write. More digits than there
are bits in `leastGreat` are not read. -/
def wholeKind (base : Nat) (cs : List Char) : NumberKind :=
  let digits := (cs.filter (· ≠ '_')).dropWhile (· == '0')
  if 1024 < digits.length || leastGreat ≤ numberInBase base digits then .great else .real

/-- Whether a text is a whole number in decimal digits: only zeros follow a
first zero, and there are not too many digits. -/
def isWhole (cs : List Char) : Bool :=
  let digits := cs.filter (· ≠ '_')
  areDigits 10 cs
    && (if digits.head? = some '0' then digits.all (· == '0') else digits.length ≤ digitLimit)

/-- A letter before an exponent. -/
def isExponentMark (c : Char) : Bool :=
  c == 'e' || c == 'E'

/-- Whether a text is a number with a point or an exponent, or with
neither. -/
def isDecimal (cs : List Char) : Bool :=
  let mantissa := cs.takeWhile (!isExponentMark ·)
  let (whole, fraction) := cutAt '.' mantissa
  let orEmpty := fun ds => ds = [] || areDigits 10 ds
  orEmpty whole && orEmpty fraction && (whole != [] || fraction != [])
    && (match cs.dropWhile (!isExponentMark ·) with
      | [] => true
      | _ :: exponent =>
        areDigits 10
          (if exponent.head?.any fun c => c == '+' || c == '-' then exponent.tail else exponent))

/-- **Reading a number**: its kind, if it is a number. -/
def number? (cs : List Char) : Option NumberKind :=
  match cs.head? == some '0', (cs.tail.head?).bind base? with
  | true, some base =>
    let digits := cs.drop 2
    if areDigits base (if digits.head? = some '_' then digits.tail else digits) then
      some (wholeKind base digits)
    else none
  | _, _ =>
    if cs.getLast?.any fun c => c == 'j' || c == 'J' then
      if isDecimal cs.dropLast then some .imaginary else none
    else if cs.any fun c => c == '.' || isExponentMark c then
      if isDecimal cs then some .real else none
    else if isWhole cs then some (wholeKind 10 cs) else none

/-- The characters of a number that a text starts with. A sign belongs to
it if it stands behind the mark of an exponent. -/
def numberChars (cs : List Char) : List Char :=
  let isNumberChar := fun c => isNameChar c || c == '.'
  let run := cs.takeWhile isNumberChar
  let hasBase := ((run.tail).head?.bind base?).isSome
  match cs.dropWhile isNumberChar with
  | c :: rest =>
    if !hasBase && run.getLast?.any isExponentMark && (c == '+' || c == '-') then
      run ++ c :: rest.takeWhile isNumberChar
    else run
  | [] => run

end LocalServer.Markup.Literal
