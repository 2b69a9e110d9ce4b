import LocalServer.Markup.Basic
import LocalServer.Markup.Literal.Basic
import LocalServer.Markup.ShortCode
import LocalServer.Markup.Style
import LocalServer.Text.WordCharacter

/-!
# What is shown of a marked-up text

The tags of a marked-up text are not shown. They only have to fit together:
`[/name]` ends the innermost style of that name that has not been ended
yet, and `[/]` the innermost style of any name. Styles may overlap, and a
style that is never ended goes on to the end of the text.

A tag that starts with `@` asks for something to be done on a click. When it
is ended its parameters have to make sense: they are a literal, or a name
with a literal in round brackets behind it, or a name alone.
-/

namespace LocalServer.Markup

open Text

variable {τ : Type}

/-! ## Characters -/

/-- The text with every `\[` made a `[`. -/
def unescape : List Char → List Char
  | [] => []
  | '\\' :: '[' :: cs => '[' :: unescape cs
  | c :: cs => c :: unescape cs

/-- Without a bracket there is nothing to take a backslash from. -/
theorem unescape_of_notMem {cs : List Char} (h : '[' ∉ cs) : unescape cs = cs := by
  fun_induction unescape cs with
  | case1 => rfl
  | case2 => simp at h
  | case3 c cs _ ih =>
    simp only [List.mem_cons, not_or] at h
    rw [ih h.2]

/-- The control characters that are never shown: they ring, or move back or
to another line. -/
def isRemoved (c : Char) : Bool :=
  ['\x07', '\x08', '\x0b', '\x0c', '\x0d'].contains c

/-- **What is shown of a text between two tags.** -/
def shown (cs : List Char) : List Char :=
  (withSymbols (unescape cs)).filter (!isRemoved ·)

/-! ## Tags -/

/-- The literal that the parameters of a click hand over. -/
def argument (parameters : List Char) : List Char :=
  let cs := trim parameters
  match cs.dropWhile fun c => isWordChar c || c == '.' with
  | [] => "()".toList
  | rest =>
    if rest.head? = some '(' && rest.getLast? = some ')' && !rest.contains '\n' then rest else cs

/-- Whether a tag can be ended: if it is for clicks its parameters make
sense. -/
def Tag.isSound (t : Tag) : Bool :=
  match t.name.head? == some '@', t.parameters with
  | true, some parameters =>
    parameters.isEmpty || Literal.isLiteral (argument parameters)
  | _, _ => true

/-- **Ending a tag**: the innermost one of a name, or of any name. `stack`
holds the tags that have not been ended yet, the innermost first. -/
def endTag? (name : List Char) : List Tag → Option (Tag × List Tag)
  | [] => none
  | t :: stack =>
    if name.isEmpty || t.name = name then some (t, stack)
    else (endTag? name stack).map fun (found, rest) => (found, t :: rest)

/-- The tags that are open after one more tag. -/
def openAfter (stack : List Tag) (t : Tag) : Except (Fault τ) (List Tag) :=
  match t.name with
  | '/' :: name => do
    let name := trim name
    let name ← if name.isEmpty then pure name else normalName name
    match endTag? name stack with
    | some (ended, rest) => if ended.isSound then pure rest else .error .brokenMarkup
    | none => .error .brokenMarkup
  | name => do
    let name ← normalName name
    pure (⟨name, t.parameters⟩ :: stack)

/-! ## Texts -/

/-- What is shown of the pieces of a text, given the tags that are open. -/
def shownPieces (stack : List Tag) : List Piece → Except (Fault τ) (List Char)
  | [] => .ok []
  | .text cs :: ps => (shownPieces stack ps).map (shown cs ++ ·)
  | .tag t :: ps => do
    let stack ← openAfter stack t
    shownPieces stack ps

/-- **What is shown of a marked-up text**, if its tags fit together. -/
def shownText (s : String) : Except (Fault τ) String :=
  (shownPieces [] (pieces s.toList)).map String.ofList

/-- **A text without tags**, short codes and control characters is shown as
it is. -/
theorem shownText_eq_self {s : String} (bracket : '[' ∉ s.toList) (colon : ':' ∉ s.toList)
    (control : ∀ c ∈ s.toList, isRemoved c = false) :
    shownText s = (.ok s : Except (Fault τ) String) := by
  have whole : shown s.toList = s.toList := by
    rw [shown, unescape_of_notMem bracket, withSymbols_of_notMem colon, List.filter_eq_self]
    simpa using control
  rw [shownText, pieces_eq_ofText bracket]
  cases hs : s.toList with
  | nil =>
    have : s = "" := String.toList_eq_nil_iff.mp hs
    subst this
    rfl
  | cons c cs =>
    rw [hs] at whole
    simp only [Piece.ofText, shownPieces, Except.map, whole, List.append_nil]
    rw [← hs, String.ofList_toList]

end LocalServer.Markup
