import LocalServer.Markup.Literal.Number
import LocalServer.Markup.Literal.Quotation

/-!
# The words of a literal

A **literal** is the text of a fixed value. Its words are numbers, quoted
texts, the names of constants, signs, commas, colons and brackets. Blanks
between them do not count, nor does anything from `#` to the end of the
line; a backslash takes the end of its line away.

Where a line starts, its first word may be indented. A form feed there takes
back the blanks before it. A line on which no word starts does not count,
unless blanks on it are the end of the text.
-/

namespace LocalServer.Markup.Literal

/-- **A word of a literal**, or the start of a line. -/
inductive Token where
  /-- A number. -/
  | number (kind : NumberKind)
  /-- A quoted text, which may be a row of bytes. -/
  | quoted (bytes : Bool)
  /-- A constant. -/
  | constant
  /-- The word in front of an empty set. -/
  | set
  /-- A plus or a minus. -/
  | sign
  | comma
  | colon
  | openRound
  | closeRound
  | openCurly
  | closeCurly
  /-- The start of a line, of which the first word may be indented. -/
  | lineStart (indented : Bool)
deriving DecidableEq, Repr

/-- The blanks between words. -/
def isGap (c : Char) : Bool :=
  c == ' ' || c == '\t' || c == '\x0c'

/-! ## Names -/

/-- The characters that stand for each letter of the word in front of an
empty set: the letter itself and its compatible forms. -/
def setLetters : List (List Nat) :=
  [[0x73, 0x17f, 0x2e2, 0x209b, 0xff53, 0x1d42c, 0x1d460, 0x1d494, 0x1d4c8, 0x1d4fc, 0x1d530,
    0x1d564, 0x1d598, 0x1d5cc, 0x1d600, 0x1d634, 0x1d668, 0x1d69c],
   [0x65, 0x1d49, 0x2091, 0x212f, 0x2147, 0xff45, 0x1d41e, 0x1d452, 0x1d486, 0x1d4ee, 0x1d522,
    0x1d556, 0x1d58a, 0x1d5be, 0x1d5f2, 0x1d626, 0x1d65a, 0x1d68e],
   [0x74, 0x1d57, 0x209c, 0xff54, 0x1d42d, 0x1d461, 0x1d495, 0x1d4c9, 0x1d4fd, 0x1d531, 0x1d565,
    0x1d599, 0x1d5cd, 0x1d601, 0x1d635, 0x1d669, 0x1d69d]]

/-- Whether a name is the word in front of an empty set. -/
def isSetWord (name : List Char) : Bool :=
  name.length = setLetters.length
    && (name.zip setLetters).all fun (c, forms) => forms.contains c.toNat

/-- The words that name a value. -/
def nameToken? (name : List Char) : Option Token :=
  if ["True", "False", "None"].contains (String.ofList name) then some .constant
  else if isSetWord name then some .set
  else none

/-! ## All words -/

/-- **The word that starts with `c`**, and the count of characters behind
`c` that belong to it. -/
def tokenAt? (c : Char) (cs : List Char) : Option (Token × Nat) :=
  match c with
  | '(' => some (.openRound, 0)
  | ')' => some (.closeRound, 0)
  | '\x7b' => some (.openCurly, 0)
  | '\x7d' => some (.closeCurly, 0)
  | ',' => some (.comma, 0)
  | ':' => some (.colon, 0)
  | '+' | '-' => some (.sign, 0)
  | _ =>
    if isQuote c then (quotedLength? ⟨false, false⟩ c cs).map (Token.quoted false, ·)
    else if c.isDigit || (c == '.' && cs.head?.any Char.isDigit) then
      let digits := numberChars (c :: cs)
      (number? digits).map (Token.number ·, digits.length - 1)
    else if c = '.' then
      if ['.', '.'].isPrefixOf cs then some (.constant, 2) else none
    else
      let more := cs.takeWhile isNameChar
      match cs.dropWhile isNameChar, Quotation.ofLetters? (c :: more) with
      | q :: rest, some way =>
        if isQuote q then
          (quotedLength? way q rest).map fun n => (.quoted way.bytes, more.length + 1 + n)
        else none
      | _, _ => (nameToken? (c :: more)).map (·, more.length)

/-- **The start of a line**: whether its first word is indented, and the
text from there. A backslash at the end of the line adds the next one to it;
blanks before the backslash count whatever follows them. -/
def margin? (indented beforeBackslash : Bool) : List Char → Option (Bool × List Char)
  | [] => some (indented || beforeBackslash, [])
  | c :: cs =>
    if c = '\x0c' then margin? false beforeBackslash cs
    else if isGap c then margin? true beforeBackslash cs
    else if c = '\\' then
      match cs with
      | '\n' :: d :: cs => margin? indented (indented || beforeBackslash) (d :: cs)
      | _ => none
    else some (indented || beforeBackslash, c :: cs)

/-- What follows the start of a line is the end of the text. -/
theorem suffix_of_margin? {indented beforeBackslash found : Bool} {cs rest : List Char}
    (h : margin? indented beforeBackslash cs = some (found, rest)) : rest <:+ cs := by
  fun_induction margin? indented beforeBackslash cs with
  | case1 => simp_all
  | case2 _ _ _ ih => exact (ih h).trans (List.suffix_cons _ _)
  | case3 _ _ _ _ _ _ ih => exact (ih h).trans (List.suffix_cons _ _)
  | case4 _ _ _ _ _ _ ih =>
    exact (ih h).trans ((List.suffix_cons _ _).trans (List.suffix_cons _ _))
  | case5 => simp at h
  | case6 => simp_all

/-- Whether a line counts, given its text without the blanks that it starts
with: a word starts there, or the blanks are the end of the whole text. -/
def counts (indented : Bool) : List Char → Bool
  | [] => indented
  | c :: _ => c != '\n' && c != '#'

/-- The words of a literal from the start of a line on, or from behind one
of its words. -/
def tokensFrom? (atStart : Bool) (cs : List Char) : Option (List Token) :=
  if atStart then
    match _h : margin? false false cs with
    | none => none
    | some (indented, rest) =>
      if counts indented rest then (tokensFrom? false rest).map (.lineStart indented :: ·)
      else tokensFrom? false rest
  else
    match cs with
    | [] => some []
    | c :: cs =>
      if c = '\n' then tokensFrom? true cs
      else if isGap c then tokensFrom? false cs
      else if c = '#' then tokensFrom? false (cs.dropWhile (· ≠ '\n'))
      else if c = '\\' then
        match cs with
        | '\n' :: d :: cs => tokensFrom? false (d :: cs)
        | _ => none
      else
        match tokenAt? c cs with
        | some (t, n) => (tokensFrom? false (cs.drop n)).map (t :: ·)
        | none => none
termination_by 2 * cs.length + atStart.toNat
decreasing_by
  · have := (suffix_of_margin? _h).length_le
    subst atStart
    simp only [Bool.toNat_true, Bool.toNat_false]
    omega
  · have := (suffix_of_margin? _h).length_le
    subst atStart
    simp only [Bool.toNat_true, Bool.toNat_false]
    omega
  · simp only [List.length_cons, Bool.toNat_true]
    omega
  · simp only [List.length_cons, Bool.toNat_false]
    omega
  · have := (List.dropWhile_suffix (l := cs) (· ≠ '\n')).length_le
    simp only [List.length_cons, Bool.toNat_false]
    omega
  · simp only [List.length_cons, Bool.toNat_false]
    omega
  · simp only [List.length_drop, List.length_cons, Bool.toNat_false]
    omega

/-- **The words of a literal**, if it consists of such words. -/
def tokens? (cs : List Char) : Option (List Token) :=
  tokensFrom? true cs

end LocalServer.Markup.Literal
