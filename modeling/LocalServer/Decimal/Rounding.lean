/-!
# Rounding quotients

`roundDiv num den` is the natural number nearest to `num / den`; a quotient
that lies halfway between two numbers goes to the even one. The rule is
stated by `roundDiv_le` and `le_roundDiv`: the error is at most one half.
-/

namespace LocalServer.Decimal

/-- **The nearest natural number** to `num / den`, and of two the even
one. -/
def roundDiv (num den : Nat) : Nat :=
  let q := num / den
  let r := num % den
  if 2 * r < den then q
  else if den < 2 * r then q + 1
  else q + q % 2

/-- The result exceeds the quotient by no more than one half. -/
theorem roundDiv_le (num den : Nat) :
    2 * (roundDiv num den * den) ≤ 2 * num + den := by
  have hq := Nat.div_add_mod' num den
  have hp : num / den % 2 ≤ 1 := by omega
  simp only [roundDiv]
  split
  · omega
  · split
    · rw [Nat.add_mul]; omega
    · rw [Nat.add_mul]
      have := Nat.mul_le_mul_right den hp
      omega

/-- The result falls short of the quotient by no more than one half. -/
theorem le_roundDiv {den : Nat} (h : 0 < den) (num : Nat) :
    2 * num ≤ 2 * (roundDiv num den * den) + den := by
  have hq := Nat.div_add_mod' num den
  have hr := Nat.mod_lt num h
  simp only [roundDiv]
  split
  · omega
  · split
    · rw [Nat.add_mul]; omega
    · rw [Nat.add_mul]; omega

/-- A half goes to the even neighbour. -/
theorem roundDiv_half (q : Nat) : roundDiv (2 * q + 1) 2 % 2 = 0 := by
  simp only [roundDiv]
  have h1 : (2 * q + 1) / 2 = q := by omega
  have h2 : (2 * q + 1) % 2 = 1 := by omega
  rw [h1, h2]
  simp
  omega

end LocalServer.Decimal
