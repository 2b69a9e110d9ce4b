/-!
# White space

Addresses, settings and values of environment variables are read with the
white space around them removed. **Blank** characters are the white space
of the Unicode standard together with the four information separators
`U+001C` to `U+001F`; this is a wider class than the blanks of a URL or of
ASCII, which have their own predicates where they are needed.

`trim` removes the blanks on both sides. What is left starts and ends with
a character that is not blank, and trimming it again changes nothing.
-/

namespace LocalServer.Text

/-- **A blank character**: white space in the sense of the Unicode
standard, or an information separator. -/
def isBlank (c : Char) : Bool :=
  let n := c.toNat
  (0x09 ≤ n && n ≤ 0x0d) || (0x1c ≤ n && n ≤ 0x20) || n == 0x85 || n == 0xa0
    || n == 0x1680 || (0x2000 ≤ n && n ≤ 0x200a) || n == 0x2028 || n == 0x2029
    || n == 0x202f || n == 0x205f || n == 0x3000

/-- The white space of ASCII is blank. -/
theorem isBlank_of_isWhitespace {c : Char} (h : c.isWhitespace = true) :
    isBlank c = true := by
  simp only [Char.isWhitespace, Bool.or_eq_true, decide_eq_true_eq] at h
  rcases h with ((h | h) | h) | h <;> subst h <;> decide

/-- A digit is not blank. -/
theorem isBlank_of_isDigit {c : Char} (h : c.isDigit = true) : isBlank c = false := by
  obtain ⟨low, high⟩ := Char.isDigit_iff_toNat.mp h
  have h₀ : '0'.toNat = 0x30 := rfl
  have h₉ : '9'.toNat = 0x39 := rfl
  simp only [isBlank, Bool.or_eq_false_iff, Bool.and_eq_false_iff, decide_eq_false_iff_not,
    beq_eq_false_iff_ne]
  omega

/-- `dropTrailing p cs` is `cs` without the longest run of characters
satisfying `p` at its end. -/
def dropTrailing (p : Char → Bool) (cs : List Char) : List Char :=
  (cs.reverse.dropWhile p).reverse

@[simp] theorem dropTrailing_nil (p : Char → Bool) : dropTrailing p [] = [] := rfl

/-- A last character outside the class is kept, and all before it. -/
theorem dropTrailing_concat_of_not {p : Char → Bool} {c : Char} (h : p c = false)
    (cs : List Char) : dropTrailing p (cs ++ [c]) = cs ++ [c] := by
  simp [dropTrailing, h]

/-- A last character of the class is dropped, and dropping goes on. -/
theorem dropTrailing_concat {p : Char → Bool} {c : Char} (h : p c = true)
    (cs : List Char) : dropTrailing p (cs ++ [c]) = dropTrailing p cs := by
  simp [dropTrailing, h]

/-- Dropping at the end leaves a prefix. -/
theorem dropTrailing_prefix (p : Char → Bool) (cs : List Char) : dropTrailing p cs <+: cs := by
  rw [← List.reverse_suffix, dropTrailing, List.reverse_reverse]
  exact List.dropWhile_suffix p

/-- What is dropped is a run of the class. -/
theorem exists_dropTrailing_append (p : Char → Bool) (cs : List Char) :
    ∃ back, (∀ c ∈ back, p c = true) ∧ dropTrailing p cs ++ back = cs := by
  refine ⟨(cs.reverse.takeWhile p).reverse, fun c hc => ?_, ?_⟩
  · exact List.all_eq_true.mp List.all_takeWhile c (List.mem_reverse.mp hc)
  · rw [dropTrailing, ← List.reverse_append, List.takeWhile_append_dropWhile, List.reverse_reverse]

/-- What is left was there. -/
theorem mem_of_mem_dropTrailing {p : Char → Bool} {c : Char} {cs : List Char}
    (h : c ∈ dropTrailing p cs) : c ∈ cs := by
  have hprefix := dropTrailing_prefix p cs
  exact hprefix.subset h

/-- What is left does not end in the class. -/
theorem of_getLast?_dropTrailing {p : Char → Bool} {c : Char} {cs : List Char}
    (h : (dropTrailing p cs).getLast? = some c) : p c = false := by
  rw [dropTrailing, List.getLast?_reverse] at h
  simpa [h] using List.head?_dropWhile_not p cs.reverse

/-- A text that does not end in the class is left as it is. -/
theorem dropTrailing_eq_self {p : Char → Bool} {cs : List Char}
    (h : ∀ c, cs.getLast? = some c → p c = false) : dropTrailing p cs = cs := by
  rcases List.eq_nil_or_concat cs with rfl | ⟨front, c, rfl⟩
  · rfl
  · rw [List.concat_eq_append] at h ⊢
    exact dropTrailing_concat_of_not (h c (by simp)) front

/-- **Where dropping at the end of two texts in a row stops**: in the second,
unless nothing is left of it. -/
theorem dropTrailing_append (p : Char → Bool) (front back : List Char) :
    dropTrailing p (front ++ back)
      = if dropTrailing p back = [] then dropTrailing p front
        else front ++ dropTrailing p back := by
  simp only [dropTrailing, List.reverse_append, List.dropWhile_append, List.reverse_eq_nil_iff,
    List.isEmpty_iff]
  split <;> simp

/-- A character outside the class is kept, and all before it. -/
theorem dropTrailing_append_cons_of_not {p : Char → Bool} {c : Char} (h : p c = false)
    (front back : List Char) :
    dropTrailing p (front ++ c :: back) = front ++ c :: dropTrailing p back := by
  have hc : dropTrailing p (c :: back) = c :: dropTrailing p back := by
    rw [← List.singleton_append, dropTrailing_append]
    split
    · next hback => rw [hback]; exact dropTrailing_concat_of_not h []
    · rfl
  rw [dropTrailing_append, hc, if_neg (List.cons_ne_nil _ _)]

/-- `trim cs` is `cs` without the blanks at its start and at its end. -/
def trim (cs : List Char) : List Char :=
  dropTrailing isBlank (cs.dropWhile isBlank)

@[simp] theorem trim_nil : trim [] = [] := rfl

/-- A trimmed text does not start with a blank. -/
theorem isBlank_of_head?_trim {c : Char} {cs : List Char} (h : (trim cs).head? = some c) :
    isBlank c = false := by
  obtain ⟨rest, hrest⟩ := dropTrailing_prefix isBlank (cs.dropWhile isBlank)
  have h' : (cs.dropWhile isBlank).head? = some c := by
    rw [← hrest, List.head?_append]
    simp only [trim] at h
    simp [h]
  simpa [h'] using List.head?_dropWhile_not isBlank cs

/-- A trimmed text does not end with a blank. -/
theorem isBlank_of_getLast?_trim {c : Char} {cs : List Char} (h : (trim cs).getLast? = some c) :
    isBlank c = false :=
  of_getLast?_dropTrailing h

/-- A text without blanks at its ends is left as it is. -/
theorem trim_eq_self {cs : List Char} (first : ∀ c, cs.head? = some c → isBlank c = false)
    (last : ∀ c, cs.getLast? = some c → isBlank c = false) : trim cs = cs := by
  have h : cs.dropWhile isBlank = cs := by
    cases cs with
    | nil => rfl
    | cons c cs => exact List.dropWhile_cons_of_neg (by simp [first c rfl])
  rw [trim, h, dropTrailing_eq_self last]

/-- **Trimming again** changes nothing. -/
@[simp] theorem trim_trim (cs : List Char) : trim (trim cs) = trim cs :=
  trim_eq_self (fun _ => isBlank_of_head?_trim) (fun _ => isBlank_of_getLast?_trim)

/-- The text `s` without the blanks at its start and at its end. -/
def trimmed (s : String) : String :=
  String.ofList (trim s.toList)

@[simp] theorem toList_trimmed (s : String) : (trimmed s).toList = trim s.toList := by
  simp [trimmed]

/-- **The words of a text**: its longest runs of characters that are not
blank. -/
def words (cs : List Char) : List (List Char) :=
  (cs.splitBy fun c d => isBlank c == isBlank d).filter fun w => !w.any isBlank

end LocalServer.Text
