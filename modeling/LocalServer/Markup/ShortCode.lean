import LocalServer.Markup.ShortCodeTable
import LocalServer.Text.Blank
import LocalServer.Text.Cut
import LocalServer.Text.LowerCase

/-!
# Short codes

A short code between two colons stands for a symbol: `:tada:` for a party
popper. A code may end in `-emoji` or `-text`, which asks for the coloured
or for the plain form of the symbol. What stands between two colons and is
no code is left as it is, both colons included.
-/

namespace LocalServer.Markup

open Text

/-- Words and symbols in turn, as pairs. -/
def inPairs : List (List Char) → List (List Char × List Char)
  | word :: symbol :: rest => (word, symbol) :: inPairs rest
  | _ => []

/-- **All short codes**, each with its symbol. -/
def shortCodes : List (List Char × List Char) :=
  shortCodeTable.flatMap fun line => inPairs (Text.pieces ' ' line.toList)

/-- **The symbol of a short code**, in whatever case it is written. -/
def symbol? (code : List Char) : Option (List Char) :=
  shortCodes.lookup (lowerCase code)

/-- The endings that ask for a form of a symbol, and what they add to it. -/
def variants : List (List Char × Char) :=
  [("-emoji".toList, '\ufe0f'), ("-text".toList, '\ufe0e')]

/-- **The symbol of what stands between two colons.** -/
def symbolOf? (cs : List Char) : Option (List Char) :=
  match variants.find? fun (ending, _) => ending.isSuffixOf cs with
  | some (ending, mark) =>
    (symbol? (cs.take (cs.length - ending.length))).map (· ++ [mark])
  | none => symbol? cs

/-- The characters that may stand between two colons. -/
def isCodeChar (c : Char) : Bool :=
  c != ':' && !isBlank c

/-- **The text with symbols in place of short codes.** -/
def withSymbols : List Char → List Char
  | [] => []
  | c :: cs =>
    if c = ':' then
      match _h : cs.dropWhile isCodeChar with
      | ':' :: after =>
        let code := cs.takeWhile isCodeChar
        ((symbolOf? code).getD (':' :: code ++ [':'])) ++ withSymbols after
      | _ => c :: withSymbols cs
    else c :: withSymbols cs
termination_by cs => cs.length
decreasing_by
  all_goals simp_wf
  have := (List.dropWhile_suffix (l := cs) isCodeChar).length_le
  simp_all
  omega

/-- A text without a colon has no short codes. -/
theorem withSymbols_of_notMem {cs : List Char} (h : ':' ∉ cs) : withSymbols cs = cs := by
  induction cs with
  | nil => rw [withSymbols]
  | cons c cs ih =>
    simp only [List.mem_cons, not_or] at h
    rw [withSymbols, if_neg (Ne.symm h.1), ih h.2]

end LocalServer.Markup
