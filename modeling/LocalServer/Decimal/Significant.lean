import LocalServer.Decimal.Rounding
import LocalServer.Text.Blank

/-!
# Numbers with a fixed count of significant digits

A number of seconds is shown with at most six significant digits, without
zeros at the end of a fraction. Numbers that would need many zeros are
shown with an exponent. `Style` holds what is a matter of taste; the digits
are those of the nearest number with that many digits, found in exact
arithmetic on a fraction.
-/

namespace LocalServer.Decimal

/-- **How a number is shown.** -/
structure Style where
  /-- The count of significant digits. -/
  digits : Nat
  /-- The least power of ten that is shown without an exponent. -/
  leastPower : Int
  /-- The least count of digits in an exponent. -/
  exponentDigits : Nat

/-- The greatest power of ten that is not above `num / den`, for a positive
number. The lengths of the two numbers leave two candidates. -/
def power (num den : Nat) : Int :=
  let guess : Int := (Nat.toDigits 10 num).length - (Nat.toDigits 10 den).length
  let reached : Bool :=
    if 0 ≤ guess then den * Nat.pow 10 guess.toNat ≤ num
    else den ≤ num * Nat.pow 10 (-guess).toNat
  if reached then guess else guess - 1

/-- `num / den` divided by the given power of ten and rounded. -/
def scaled (num den : Nat) (shift : Int) : Nat :=
  if 0 ≤ shift then roundDiv num (den * Nat.pow 10 shift.toNat)
  else roundDiv (num * Nat.pow 10 (-shift).toNat) den

/-- **The leading digits** of a positive number, as a natural number with
`digits` digits, and the power of ten of the first of them. Rounding may
carry into one more digit. -/
def leading (digits num den : Nat) : Nat × Int :=
  let p := power num den
  let n := scaled num den (p - (digits - 1 : Nat))
  if n = Nat.pow 10 digits then (Nat.pow 10 (digits - 1), p + 1) else (n, p)

/-- A fraction without zeros at its end, behind its point. -/
def fraction (ds : List Char) : List Char :=
  match Text.dropTrailing (· == '0') ds with
  | [] => []
  | kept => '.' :: kept

/-- The digits with the point after the first of them and the power of ten
behind. -/
def withExponent (style : Style) (ds : List Char) (p : Int) : List Char :=
  let e := Nat.toDigits 10 p.natAbs
  ds.take 1 ++ fraction (ds.drop 1) ++ 'e' :: (if p < 0 then '-' else '+')
    :: (List.replicate (style.exponentDigits - e.length) '0' ++ e)

/-- The digits with the point where it belongs. -/
def positional (ds : List Char) (p : Int) : List Char :=
  if 0 ≤ p then
    ds.take (p.toNat + 1) ++ fraction (ds.drop (p.toNat + 1))
  else '0' :: fraction (List.replicate ((-p).toNat - 1) '0' ++ ds)

/-- **The text of a number** `num / den`, which is not negative. -/
def render (style : Style) (num den : Nat) : List Char :=
  if num = 0 then ['0']
  else
    let (n, p) := leading style.digits num den
    let ds := Nat.toDigits 10 n
    if p < style.leastPower ∨ (style.digits : Int) ≤ p then withExponent style ds p
    else positional ds p

end LocalServer.Decimal
