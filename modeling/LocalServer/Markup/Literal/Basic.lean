import LocalServer.Markup.Literal.Token
import LocalServer.Text.Lines

/-!
# Literals

A **literal** is a number, with or without a sign, the sum of a real and an
imaginary number, a row of quoted texts, a constant, a tuple in round
brackets, or a set or a table in curly ones. The brackets of a tuple may be
left out around everything. A comma may follow the last part.

What is looked up has to stay as it is: the members of a set and the keys
of a table are no sets or tables, and neither are the parts of a tuple
there. Outside of all brackets a literal is on one line, and starts with
it.

The words are read from left to right. `Nest` is what has been read of the
value between two brackets; the values around it wait until it is complete.

Brackets stand in each other only up to a limit, and there is one more. A
literal is an expression, and whoever reads it goes down one step from each
kind of expression to the next that binds tighter: from the whole to sums,
signs, and last what stands in brackets or is a single word. Brackets and
commas add steps of their own, so that the place of a part decides how deep
it is. There are no more than `deepestStep` steps.
-/

namespace LocalServer.Markup.Literal

/-- **The kinds of values**, as far as they decide how a value may be
used. -/
inductive Value where
  /-- A number, with a sign before it or not. -/
  | number (kind : NumberKind) (signed : Bool)
  /-- A quoted text, or a row of bytes. -/
  | quoted (bytes : Bool)
  /-- Another value that stays as it is. -/
  | fixed
  /-- A value that can change. -/
  | loose
deriving DecidableEq, Repr

/-- Whether a value stays as it is. -/
def Value.isFixed : Value → Bool
  | .loose => false
  | _ => true

/-- A value in round brackets: a quoted text cannot be continued. -/
def Value.enclosed : Value → Value
  | .quoted _ => .fixed
  | v => v

/-- A value that is made of others. -/
def Value.compound (allFixed : Bool) : Value :=
  if allFixed then .fixed else .loose

/-- **What is being read** of a part. -/
inductive Part where
  /-- Nothing yet. -/
  | nothing
  /-- A sign. -/
  | signed
  /-- A value. -/
  | value (v : Value)
  /-- A real number and a sign. -/
  | sum
  /-- The word in front of an empty set. -/
  | set
deriving DecidableEq, Repr

/-- A part with one more value behind what has been read of it. -/
def Part.take? : Part → Value → Option Part
  | .nothing, v => some (.value v)
  | .signed, .number kind false => some (.value (.number kind true))
  | .sum, .number .imaginary false => some (.value .fixed)
  | .value (.quoted b), .quoted b' => if b = b' then some (.value (.quoted b)) else none
  | _, _ => none

/-- **The kinds of nests.** -/
inductive NestKind where
  /-- The whole text. -/
  | whole
  /-- A tuple, or a value in brackets. -/
  | round
  /-- The brackets of an empty set. -/
  | call
  /-- Curly brackets that are so far empty or hold one value. -/
  | curly
  /-- A set. -/
  | members
  /-- A table, of which a key waits for its value or not. -/
  | table (waiting : Bool)
deriving DecidableEq, Repr

/-- **What has been read between two brackets.** -/
structure Nest where
  /-- What is between them. -/
  kind : NestKind
  /-- The part that is being read. -/
  part : Part
  /-- How many parts are complete. -/
  parts : Nat
  /-- Whether all complete parts stay as they are. -/
  allFixed : Bool
  /-- The step at which the first of the brackets stands. -/
  step : Nat
deriving DecidableEq, Repr

namespace Nest

/-- A nest of which nothing has been read. -/
def fresh (kind : NestKind) (step : Nat) : Nest :=
  ⟨kind, .nothing, 0, true, step⟩

/-- The steps from a bracket down to a part, given how many parts stand
before it. The first parts are not read as the later ones are. -/
def stepsToPart : NestKind → Nat → Nat
  | .whole, parts => if parts = 0 then 3 else 5
  | .round, parts => if parts = 0 then 6 else if parts = 1 then 8 else 9
  | .call, _ => 2
  | .curly, parts | .members, parts | .table _, parts => if parts = 0 then 7 else 8

/-- The steps from a part down to a single word. -/
def stepsToWord : Nat := 22

/-- The steps from a single word down to the texts that it is a row of. -/
def stepsToQuoted : Nat := 2

/-- The step of the next word of a nest. A sign takes one of its own. -/
def wordStep (f : Nest) : Nat :=
  f.step + stepsToPart f.kind f.parts + stepsToWord + (if f.part = .signed then 1 else 0)

/-- The nest with one more value in the part that is being read. -/
def take? (f : Nest) (v : Value) : Option Nest :=
  (f.part.take? v).map fun part => { f with part := part }

/-- The kind of a nest after a part that is complete. -/
def kindAfter? (kind : NestKind) (v : Value) : Option NestKind :=
  match kind with
  | .whole | .round => some kind
  | .call => none
  | .curly | .members => if v.isFixed then some .members else none
  | .table waiting => if waiting then some (.table false) else none

/-- The nest after a comma. -/
def comma? (f : Nest) : Option Nest :=
  match f.part with
  | .value v =>
    (kindAfter? f.kind v).map fun kind =>
      { f with
        kind := kind, part := .nothing, parts := f.parts + 1,
        allFixed := f.allFixed && v.isFixed }
  | _ => none

/-- The nest after a colon. -/
def colon? (f : Nest) : Option Nest :=
  match f.part, f.kind with
  | .value v, .curly | .value v, .table false =>
    if v.isFixed then some { f with kind := .table true, part := .nothing } else none
  | _, _ => none

/-- The nest after a sign. Nothing can be added to a number that is too
great. -/
def sign? (f : Nest) : Option Nest :=
  match f.part with
  | .nothing => some { f with part := .signed }
  | .value (.number .real _) => some { f with part := .sum }
  | _ => none

/-- The nest after the word for a set. -/
def set? (f : Nest) : Option Nest :=
  if f.part = .nothing then some { f with part := .set } else none

/-- **The value of a nest** that is complete. -/
def value? (f : Nest) : Option Value :=
  match f.kind, f.part with
  | .whole, .nothing => if 0 < f.parts then some (.compound f.allFixed) else none
  | .round, .nothing => some (.compound f.allFixed)
  | .whole, .value v | .round, .value v =>
    some (if 0 < f.parts then .compound (f.allFixed && v.isFixed) else v.enclosed)
  | .curly, .nothing | .members, .nothing | .table false, .nothing | .call, .nothing => some .loose
  | .curly, .value v | .members, .value v => if v.isFixed then some .loose else none
  | .table true, .value _ => some .loose
  | _, _ => none

/-- Whether a bracket ends a nest. -/
def endsWith (f : Nest) : Token → Bool
  | .closeRound => f.kind = .round || f.kind = .call
  | .closeCurly =>
    match f.kind with
    | .curly | .members | .table _ => true
    | _ => false
  | _ => false

/-- **The nest around one that is complete.** The word for an empty set may
stand in brackets, too. -/
def close? (f outer : Nest) : Option Nest :=
  if f.kind = .round && f.part = .set && f.parts = 0 then outer.set?
  else f.value?.bind outer.take?

/-- The nest that a bracket opens, and the nest around it. -/
def open? (f : Nest) : Token → Option (Nest × Nest)
  | .openRound =>
    if f.part = .set then some (fresh .call f.wordStep, { f with part := .nothing })
    else some (fresh .round f.wordStep, f)
  | .openCurly => some (fresh .curly f.wordStep, f)
  | _ => none

end Nest

/-- The nests that may stand in each other. -/
def deepestNest : Nat := 200

/-- The steps that a literal may go down. -/
def deepestStep : Nat := 6000

/-- Whether words complete a literal of which the nest `f`, and the nests
around it, have been read. A nest goes down to its next word even where the
word is missing. -/
def completes (around : List Nest) (f : Nest) : List Token → Bool
  | [] => around.isEmpty && f.value?.isSome
  | .lineStart indented :: ts =>
    if f.kind ≠ .whole then completes around f ts
    else f = .fresh .whole 0 && !indented && completes around f ts
  | t :: ts =>
    match t with
    | .openRound | .openCurly =>
      match f.open? t with
      | some (inner, f) =>
        around.length < deepestNest && inner.wordStep ≤ deepestStep
          && completes (f :: around) inner ts
      | none => false
    | .closeRound | .closeCurly =>
      match around with
      | outer :: around => f.endsWith t && (f.close? outer).any fun f => completes around f ts
      | [] => false
    | .number kind => (f.take? (.number kind false)).any fun f => completes around f ts
    | .quoted bytes =>
      f.wordStep + Nest.stepsToQuoted ≤ deepestStep
        && (f.take? (.quoted bytes)).any fun f => completes around f ts
    | .constant => (f.take? .fixed).any fun f => completes around f ts
    | .comma => f.comma?.any fun f => f.wordStep ≤ deepestStep && completes around f ts
    | .colon => f.colon?.any fun f => completes around f ts
    | .sign => f.sign?.any fun f => f.wordStep ≤ deepestStep && completes around f ts
    | .set => f.set?.any fun f => completes around f ts
    | .lineStart _ => false

/-- **Whether a text is a literal.** Blanks before it do not count. -/
def isLiteral (cs : List Char) : Bool :=
  let cs := Text.unifyLineEnds (cs.dropWhile fun c => c == ' ' || c == '\t')
  !cs.contains '\x00' && (tokens? cs).any (completes [] (.fresh .whole 0))

end LocalServer.Markup.Literal
