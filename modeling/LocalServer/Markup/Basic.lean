import LocalServer.Text.Cut

/-!
# Marked-up text

Lines for the user are written with **tags**: `[green]` starts a style and
`[/green]` ends it. A tag is what stands between `[` and the next `]`, with
no other `[` in between, if it starts with a small letter of ASCII, `#`, `/`
or `@`; other brackets are just characters. What follows the first `=` in a
tag are its parameters.

A backslash before a tag takes its meaning away, and two backslashes before
a tag are one. `pieces` reads a marked-up text as the texts and tags that it
consists of.
-/

namespace LocalServer.Markup

open Text

/-- **A tag.** -/
structure Tag where
  /-- What it does: the name of a style, or `/` and the name of one. -/
  name : List Char
  /-- What follows `=`, if there is one. -/
  parameters : Option (List Char)
deriving DecidableEq, Repr

/-- The tag with the given text between its brackets. -/
def Tag.ofChars (cs : List Char) : Tag :=
  let (name, parameters) := cutAt '=' cs
  ⟨name, if '=' ∈ cs then some parameters else none⟩

/-- The characters that a tag starts with. -/
def startsTag (c : Char) : Bool :=
  c.isLower || c == '#' || c == '/' || c == '@'

/-- Whether a character is neither of the brackets. -/
def isInside (c : Char) : Bool :=
  c != '[' && c != ']'

/-- **A piece** of a marked-up text. -/
inductive Piece where
  /-- Characters that stand for themselves. -/
  | text (cs : List Char)
  /-- A tag. -/
  | tag (t : Tag)
deriving DecidableEq, Repr

/-- What a text starts with, if that is a tag: the count of backslashes
before it, what stands between its brackets, and what follows. -/
def tagAhead? (cs : List Char) : Option (Nat × List Char × List Char) :=
  match cs.dropWhile (· == '\\') with
  | '[' :: rest =>
    match rest.dropWhile isInside with
    | ']' :: after =>
      let inside := rest.takeWhile isInside
      if inside.head?.any startsTag then
        some ((cs.takeWhile (· == '\\')).length, inside, after)
      else none
    | _ => none
  | _ => none

/-- A tag takes up some of the text. -/
theorem length_lt_of_tagAhead? {cs inside after : List Char} {n : Nat}
    (h : tagAhead? cs = some (n, inside, after)) : after.length < cs.length := by
  simp only [tagAhead?] at h
  split at h
  · next rest hrest =>
    split at h
    · next found hfound =>
      split at h
      · simp only [Option.some.injEq, Prod.mk.injEq] at h
        obtain ⟨_, _, rfl⟩ := h
        have h1 := (List.dropWhile_suffix (l := cs) (· == '\\')).length_le
        have h2 := (List.dropWhile_suffix (l := rest) isInside).length_le
        rw [hrest] at h1
        rw [hfound] at h2
        simp only [List.length_cons] at h1 h2
        omega
      · simp at h
    · simp at h
  · simp at h

/-- A text as a piece, unless it is empty. -/
def Piece.ofText : List Char → List Piece
  | [] => []
  | cs => [.text cs]

/-- A tag and the backslashes before it. -/
def Piece.ofTag (slashes : Nat) (inside : List Char) : List Piece :=
  Piece.ofText (List.replicate (slashes / 2) '\\')
    ++ [if slashes % 2 = 1 then .text ('[' :: inside ++ [']']) else .tag (.ofChars inside)]

/-- The pieces of a text, with the characters before it that no tag has
ended yet, the last of them first. -/
def piecesAfter (before : List Char) (cs : List Char) : List Piece :=
  match _h : tagAhead? cs with
  | some (slashes, inside, after) =>
    Piece.ofText before.reverse ++ Piece.ofTag slashes inside ++ piecesAfter [] after
  | none =>
    match cs with
    | [] => Piece.ofText before.reverse
    | c :: cs => piecesAfter (c :: before) cs
termination_by cs.length
decreasing_by
  · exact length_lt_of_tagAhead? _h
  · simp

/-- **The pieces of a marked-up text.** -/
def pieces (cs : List Char) : List Piece :=
  piecesAfter [] cs

/-- Without a bracket there is no tag. -/
theorem tagAhead?_of_notMem {cs : List Char} (h : '[' ∉ cs) : tagAhead? cs = none := by
  simp only [tagAhead?]
  split
  · next rest hrest =>
    have : '[' ∈ cs.dropWhile (· == '\\') := by simp [hrest]
    exact absurd ((List.dropWhile_suffix _).subset this) h
  · rfl

/-- **A text without a bracket** is a single piece. -/
theorem pieces_eq_ofText {cs : List Char} (h : '[' ∉ cs) : pieces cs = Piece.ofText cs := by
  have after : ∀ before, piecesAfter before cs = Piece.ofText (before.reverse ++ cs) := by
    induction cs with
    | nil =>
      intro before
      rw [piecesAfter]
      simp [tagAhead?]
    | cons c cs ih =>
      intro before
      rw [piecesAfter]
      simp only [List.mem_cons, not_or] at h
      split
      · next found => simp [tagAhead?_of_notMem, h] at found
      · simpa using ih h.2 (c :: before)
  exact after []

end LocalServer.Markup
