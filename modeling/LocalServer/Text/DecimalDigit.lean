/-!
# Decimal digits

Every script has its own ten digits, which stand in a row in the Unicode
standard, here in version 14. A character is a decimal digit if it is one
of the ten of some script.

Where digits are read as a number there must not be too many of them.
-/

namespace LocalServer.Text

/-- The longest run of digits that is read as a number. -/
def digitLimit : Nat := 4300

/-- **The zeros** of all scripts. -/
def zeros : List Nat :=
  [0x30, 0x660, 0x6f0, 0x7c0, 0x966, 0x9e6, 0xa66, 0xae6, 0xb66, 0xbe6, 0xc66, 0xce6, 0xd66,
   0xde6, 0xe50, 0xed0, 0xf20, 0x1040, 0x1090, 0x17e0, 0x1810, 0x1946, 0x19d0, 0x1a80, 0x1a90,
   0x1b50, 0x1bb0, 0x1c40, 0x1c50, 0xa620, 0xa8d0, 0xa900, 0xa9d0, 0xa9f0, 0xaa50, 0xabf0, 0xff10,
   0x104a0, 0x10d30, 0x11066, 0x110f0, 0x11136, 0x111d0, 0x112f0, 0x11450, 0x114d0, 0x11650,
   0x116c0, 0x11730, 0x118e0, 0x11950, 0x11c50, 0x11d50, 0x11da0, 0x16a60, 0x16ac0, 0x16b50,
   0x1d7ce, 0x1d7d8, 0x1d7e2, 0x1d7ec, 0x1d7f6, 0x1e140, 0x1e2f0, 0x1e950, 0x1fbf0]

/-- **The value of a decimal digit**, of whatever script. -/
def digitValue? (c : Char) : Option Nat :=
  (zeros.find? fun z => z ≤ c.toNat && c.toNat < z + 10).map (c.toNat - ·)

/-- The value of a decimal digit is less than ten. -/
theorem lt_ten_of_digitValue? {c : Char} {n : Nat} (h : digitValue? c = some n) : n < 10 := by
  simp only [digitValue?, Option.map_eq_some_iff] at h
  obtain ⟨z, hzero, rfl⟩ := h
  have := List.find?_some hzero
  simp only [Bool.and_eq_true, decide_eq_true_eq] at this
  omega

/-- The digits of ASCII have the values that the core library gives
them. -/
theorem digitValue?_of_isDigit {c : Char} (h : c.isDigit = true) :
    digitValue? c = some (c.toNat - 0x30) := by
  simp only [Char.isDigit, Bool.and_eq_true, decide_eq_true_eq, ge_iff_le,
    UInt32.le_iff_toNat_le] at h
  have low : 0x30 ≤ c.toNat := h.1
  have high : c.toNat ≤ 0x39 := h.2
  have found : (zeros.find? fun z => z ≤ c.toNat && c.toNat < z + 10) = some 0x30 := by
    simp only [zeros, List.find?_cons]
    rw [show (decide (0x30 ≤ c.toNat) && decide (c.toNat < 0x30 + 10)) = true by
      simp only [Bool.and_eq_true, decide_eq_true_eq]; omega]
  simp only [digitValue?, found, Option.map_some]

end LocalServer.Text
