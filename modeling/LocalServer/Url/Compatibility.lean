/-!
# Look-alikes of the delimiters

Some characters have a compatibility form that holds one of the delimiters
of an address: the full-width `／` reads as `/`, and `℀` as `a/c`. An
authority that holds one of them would be cut elsewhere by a reader that
normalises first, so such an authority is refused.

The list is that of the Unicode standard, version 14. Composition cannot
add to it: none of the five delimiters is part of a composed character.
-/

namespace LocalServer.Url

/-- **The look-alikes**: the characters outside ASCII whose compatibility
form holds `/`, `?`, `#`, `@` or `:`. -/
def lookAlikes : List Nat :=
  [0x2047, 0x2048, 0x2049, 0x2100, 0x2101, 0x2105, 0x2106, 0x2a74, 0xfe13, 0xfe16,
   0xfe55, 0xfe56, 0xfe5f, 0xfe6b, 0xff03, 0xff0f, 0xff1a, 0xff1f, 0xff20]

/-- Whether the compatibility form of `c` brings in a delimiter. -/
def hidesDelimiter (c : Char) : Bool :=
  lookAlikes.contains c.toNat

/-- No character of ASCII is a look-alike. -/
theorem hidesDelimiter_of_ascii {c : Char} (h : c.toNat < 0x80) : hidesDelimiter c = false := by
  simp only [hidesDelimiter, List.contains_eq_mem, decide_eq_false_iff_not]
  intro hc
  have least : ∀ n ∈ lookAlikes, 0x80 ≤ n := by decide
  exact absurd (least _ hc) (by omega)

end LocalServer.Url
