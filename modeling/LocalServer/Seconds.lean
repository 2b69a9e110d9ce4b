import LocalServer.Decimal.Significant

/-!
# Spans of time

Time is counted in seconds from the start of a run. Everything that waits
is written for **any scale of seconds** `τ`: a running program counts in
binary floating point numbers of 64 bits, and exact rational numbers are
the scale on which its waiting is best understood.
-/

namespace LocalServer

/-- **A scale of seconds.** -/
class Seconds (τ : Type) extends Add τ, Sub τ, LT τ, OfScientific τ where
  /-- Two points of the scale can be compared. -/
  decidableLt : DecidableLT τ
  /-- The text of a span in messages. -/
  text : τ → String

attribute [reducible, instance] Seconds.decidableLt

namespace Seconds

/-- Spans are shown with six significant digits, with an exponent of two
digits or more from a million seconds on and below a ten-thousandth. -/
def style : Decimal.Style := ⟨6, -4, 2⟩

/-- The later of two points in time. -/
def later {τ : Type} [Seconds τ] (a b : τ) : τ :=
  if a < b then b else a

/-! ## Exact seconds -/

/-- **The exact scale**, on which pauses add up to what they are. -/
instance : Seconds Rat where
  decidableLt := inferInstance
  text q :=
    (if q < 0 then "-" else "")
      ++ String.ofList (Decimal.render style q.num.natAbs q.den)

/-! ## Seconds of a machine -/

/-- **What a floating point number of 64 bits stands for.** -/
inductive Binary64 where
  /-- A fraction `num / den` and its sign. -/
  | finite (negative : Bool) (num den : Nat)
  /-- A number beyond the range. -/
  | infinite (negative : Bool)
  /-- No number. -/
  | undefined

/-- The number that a pattern of 64 bits stands for: a sign, eleven bits
of exponent, and 52 bits of a significand whose leading one is implied
unless the exponent is the least. -/
def Binary64.ofBits (bits : Nat) : Binary64 :=
  let negative := bits / Nat.pow 2 63 == 1
  let exponent := bits / Nat.pow 2 52 % Nat.pow 2 11
  let significand := bits % Nat.pow 2 52
  if exponent = 2047 then
    if significand = 0 then .infinite negative else .undefined
  else if exponent = 0 then .finite negative significand (Nat.pow 2 1074)
  else
    let m := significand + Nat.pow 2 52
    if 1075 ≤ exponent then .finite negative (m * Nat.pow 2 (exponent - 1075)) 1
    else .finite negative m (Nat.pow 2 (1075 - exponent))

/-- The text of a number, in the style of spans of time. -/
def Binary64.text : Binary64 → String
  | .finite negative num den =>
    (if negative then "-" else "") ++ String.ofList (Decimal.render style num den)
  | .infinite negative => (if negative then "-" else "") ++ "inf"
  | .undefined => "nan"

/-- The nearest integer, and of two the even one. -/
def Binary64.round : Binary64 → Int
  | .finite negative num den =>
    let n : Int := Decimal.roundDiv num den
    if negative then -n else n
  | _ => 0

/-- **The scale of a machine**, on which sums are rounded. -/
instance : Seconds Float where
  decidableLt := inferInstance
  text x := (Binary64.ofBits x.toBits.toNat).text

/-- The milliseconds of a span, as an integer. -/
def milliseconds (x : Float) : Int :=
  (Binary64.ofBits (x * 1000).toBits.toNat).round

end Seconds

end LocalServer
