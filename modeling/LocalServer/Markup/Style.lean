import LocalServer.Markup.Color
import LocalServer.Text.Blank

/-!
# Styles

A **style** is described in words: attributes such as `bold`, or `not bold`,
a colour, `on` and a colour for the background, and `link` and an address.
The same style can be described in many ways; `normalName` describes each
style in one way, so that `[b]` is ended by `[/bold]`. A description that
makes no style is its own name, in lower case.
-/

namespace LocalServer.Markup

open Text

variable {τ : Type}

/-- **The attributes of a style.** -/
inductive Attribute where
  | bold
  | dim
  | italic
  | underline
  | blink
  | blink2
  | reverse
  | conceal
  | strike
  | underline2
  | frame
  | encircle
  | overline
deriving DecidableEq, Repr

namespace Attribute

/-- All attributes, in the order in which they are described. -/
def all : List Attribute :=
  [bold, dim, italic, underline, blink, blink2, reverse, conceal, strike, underline2, frame,
    encircle, overline]

/-- The name of an attribute. -/
def name : Attribute → String
  | bold => "bold"
  | dim => "dim"
  | italic => "italic"
  | underline => "underline"
  | blink => "blink"
  | blink2 => "blink2"
  | reverse => "reverse"
  | conceal => "conceal"
  | strike => "strike"
  | underline2 => "underline2"
  | frame => "frame"
  | encircle => "encircle"
  | overline => "overline"

/-- The attribute of a short name. -/
def ofShort? : String → Option Attribute
  | "b" => some bold
  | "d" => some dim
  | "i" => some italic
  | "u" => some underline
  | "r" => some reverse
  | "c" => some conceal
  | "s" => some strike
  | "uu" => some underline2
  | "o" => some overline
  | _ => none

/-- The attribute that a word names. -/
def ofWord? (word : List Char) : Option Attribute :=
  (ofShort? (String.ofList word)).or (all.find? fun a => a.name.toList = word)

/-- Every attribute is in the list of all. -/
theorem mem_all (a : Attribute) : a ∈ all := by
  cases a <;> decide

/-- An attribute is named by its name. -/
theorem ofWord?_name (a : Attribute) : ofWord? a.name.toList = some a := by
  cases a <;> decide +kernel

end Attribute

/-- **A style.** -/
structure Style where
  /-- The attributes that are set or taken away, the latest first. -/
  attributes : List (Attribute × Bool)
  /-- The colour. -/
  color : Option (List Char)
  /-- The colour of the background. -/
  background : Option (List Char)
  /-- The address of a link. -/
  link : Option (List Char)
deriving DecidableEq, Repr

namespace Style

/-- The style that changes nothing. -/
def plain : Style :=
  ⟨[], none, none, none⟩

/-- The words for an attribute. -/
def attributeWords (s : Style) (a : Attribute) : List (List Char) :=
  match s.attributes.lookup a with
  | none => []
  | some true => [a.name.toList]
  | some false => ["not".toList, a.name.toList]

/-- The words that describe a style, in their order. -/
def description (s : Style) : List (List Char) :=
  Attribute.all.flatMap s.attributeWords ++ s.color.toList
    ++ (match s.background with
      | some color => ["on".toList, color]
      | none => [])
    ++ (match s.link with
      | some address => ["link".toList, address]
      | none => [])

/-- **The name of a style.** -/
def toChars (s : Style) : List Char :=
  match s.description with
  | [] => "none".toList
  | ws => [' '].intercalate ws

/-- The style with more words, if they describe one. -/
def readWords (s : Style) : List (List Char) → Except (Fault τ) (Option Style)
  | [] => .ok (some s)
  | w :: ws =>
    let word := lowerCase w
    if word = "on".toList then
      match ws with
      | [] => .ok none
      | color :: ws => do
        let color := lowerCase color
        if ← isColor color then readWords { s with background := some color } ws
        else pure none
    else if word = "not".toList then
      match ws with
      | [] => .ok none
      | name :: ws =>
        match Attribute.ofWord? name with
        | some a => readWords { s with attributes := (a, false) :: s.attributes } ws
        | none => .ok none
    else if word = "link".toList then
      match ws with
      | [] => .ok none
      | address :: ws => readWords { s with link := some address } ws
    else
      match Attribute.ofWord? word with
      | some a => readWords { s with attributes := (a, true) :: s.attributes } ws
      | none => do
        if ← isColor word then readWords { s with color := some word } ws
        else pure none

end Style

/-- **The name that stands for a description of a style.** -/
def normalName (cs : List Char) : Except (Fault τ) (List Char) :=
  if trim cs = "none".toList then .ok "none".toList
  else do
    match ← Style.readWords .plain (words cs) with
    | some s => pure s.toChars
    | none => pure (lowerCase (trim cs))

end LocalServer.Markup
