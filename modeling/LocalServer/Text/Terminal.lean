/-!
# Text that is not shown on a terminal

A text may hold sequences that only a terminal understands: the escape
character `U+001B`, `[`, digits, `;` and `?`, and one letter. They set
colours, move the cursor and the like. Where a text does not go to a
terminal they are left out, and the end of a line is a line feed alone.
-/

namespace LocalServer.Text

/-- The characters between `[` and the letter of a sequence. -/
def isSequenceChar (c : Char) : Bool :=
  c.isDigit || c == ';' || c == '?'

/-- What follows a sequence whose escape character and `[` are read. -/
def afterSequence? (cs : List Char) : Option { r : List Char // r.length < cs.length } :=
  match h : cs.dropWhile isSequenceChar with
  | [] => none
  | c :: r =>
    if c.isAlpha then
      some ⟨r, by
        have := (List.dropWhile_suffix (l := cs) isSequenceChar).length_le
        simp only [h, List.length_cons] at this
        omega⟩
    else none

/-- **The text without terminal sequences.** -/
def withoutSequences : List Char → List Char
  | [] => []
  | '\x1b' :: '[' :: cs =>
    match afterSequence? cs with
    | some ⟨r, _⟩ => withoutSequences r
    | none => '\x1b' :: '[' :: withoutSequences cs
  | c :: cs => c :: withoutSequences cs
termination_by cs => cs.length

/-- The text without the carriage returns that stand before a line feed. -/
def shortenLineEnds : List Char → List Char
  | [] => []
  | '\r' :: '\n' :: cs => '\n' :: shortenLineEnds cs
  | c :: cs => c :: shortenLineEnds cs

/-- **A text as it is written to a file.** -/
def plainOutput (s : String) : String :=
  String.ofList (shortenLineEnds (withoutSequences s.toList))

/-- A text without the escape character has no sequences. -/
theorem withoutSequences_of_notMem {cs : List Char} (h : '\x1b' ∉ cs) :
    withoutSequences cs = cs := by
  fun_induction withoutSequences cs with
  | case1 => rfl
  | case2 => simp at h
  | case3 => simp at h
  | case4 c cs _ ih =>
    simp only [List.mem_cons, not_or] at h
    rw [ih h.2]

/-- A text without carriage returns keeps its line ends. -/
theorem shortenLineEnds_of_notMem {cs : List Char} (h : '\r' ∉ cs) :
    shortenLineEnds cs = cs := by
  fun_induction shortenLineEnds cs with
  | case1 => rfl
  | case2 => simp at h
  | case3 c cs _ ih =>
    simp only [List.mem_cons, not_or] at h
    rw [ih h.2]

end LocalServer.Text
