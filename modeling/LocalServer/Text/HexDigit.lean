/-!
# Hexadecimal digits

The digits of the numbers to base sixteen are the ten of ASCII and the
letters from `a` to `f`, small or capital. The same digits, as far as they are
less than the base, write numbers to a smaller one.
-/

namespace LocalServer.Text

/-- **A hexadecimal digit.** -/
def isHexDigit (c : Char) : Bool :=
  c.isDigit || ('a' ≤ c && c ≤ 'f') || ('A' ≤ c && c ≤ 'F')

/-- The value of a hexadecimal digit. -/
def hexValue (c : Char) : Nat :=
  if c.isDigit then c.toNat - 0x30
  else if c ≤ 'F' then c.toNat - 0x37
  else c.toNat - 0x57

/-- The value of a hexadecimal digit is less than sixteen. -/
theorem hexValue_lt_sixteen {c : Char} (h : isHexDigit c = true) : hexValue c < 16 := by
  have value : c.toNat = c.val.toNat := rfl
  simp only [isHexDigit, Char.isDigit, Bool.or_eq_true, Bool.and_eq_true, decide_eq_true_eq,
    ge_iff_le, Char.le_def, UInt32.le_iff_toNat_le] at h
  simp only [hexValue, Char.isDigit, Bool.and_eq_true, decide_eq_true_eq, ge_iff_le, Char.le_def,
    UInt32.le_iff_toNat_le]
  rcases h with (⟨low, high⟩ | ⟨low, high⟩) | ⟨low, high⟩ <;>
    simp only [UInt32.reduceToNat, Char.reduceVal] at low high ⊢ <;>
    split <;> (try split) <;> omega

/-- **The number that digits write** to a base. -/
def numberInBase (base : Nat) (digits : List Char) : Nat :=
  digits.foldl (fun n c => n * base + hexValue c) 0

/-- One more digit multiplies what is before it by the base. -/
@[simp] theorem numberInBase_concat (base : Nat) (digits : List Char) (c : Char) :
    numberInBase base (digits ++ [c]) = numberInBase base digits * base + hexValue c := by
  simp [numberInBase]

end LocalServer.Text
