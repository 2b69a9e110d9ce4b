import LocalServer.Finding
import LocalServer.World.Basic

/-!
# Actions

An **action** changes the world and ends: it returns a value, or it raises
a fault. What an action has done before a fault stays done. There are also
actions that never end, such as a loop that nothing stops; they are not
faults: nobody can catch them, and nothing comes after them.

`rescue`, `onFault` and `ensuring` are the three ways to deal with a fault:
to go on in another way, to clean up and pass it on, and to clean up in any
case. `loop` does an action over and over until it has a value to return.
-/

namespace LocalServer

variable {τ : Type} {α β : Type}

/-- **How an action ends.** -/
inductive Ending (τ : Type) (α : Type) where
  /-- It returns a value. -/
  | returned (value : α)
  /-- It raises a fault. -/
  | raised (fault : Fault τ)
deriving DecidableEq, Repr

/-- **An action** in a world: how it ends and the world then, if it ends. -/
def Act (τ : Type) (α : Type) : Type :=
  World τ → Option (Ending τ α × World τ)

namespace Act

/-- Carrying out an action. -/
def run (x : Act τ α) (w : World τ) : Option (Ending τ α × World τ) := x w

/-- One action after the other; the second is left out unless the first
returns. -/
def andThen (x : Act τ α) (f : α → Act τ β) : Act τ β := fun w =>
  match x w with
  | some (.returned a, w) => f a w
  | some (.raised e, w) => some (.raised e, w)
  | none => none

instance : Monad (Act τ) where
  pure a := fun w => some (.returned a, w)
  bind := andThen

@[simp] theorem run_pure (a : α) (w : World τ) :
    run (pure a : Act τ α) w = some (.returned a, w) := rfl

/-- An action goes on after one that returns. -/
theorem run_bind_of_returned {x : Act τ α} {w w' : World τ} {a : α}
    (h : x.run w = some (.returned a, w')) (f : α → Act τ β) :
    (x >>= f).run w = (f a).run w' := by
  simp only [run] at h
  simp only [run, bind, andThen, h]

/-- A fault ends a sequence of actions. -/
theorem run_bind_of_raised {x : Act τ α} {w w' : World τ} {e : Fault τ}
    (h : x.run w = some (.raised e, w')) (f : α → Act τ β) :
    (x >>= f).run w = some (.raised e, w') := by
  simp only [run] at h
  simp only [run, bind, andThen, h]

/-- Nothing comes after an action that does not end. -/
theorem run_bind_of_none {x : Act τ α} {w : World τ} (h : x.run w = none)
    (f : α → Act τ β) : (x >>= f).run w = none := by
  simp only [run] at h
  simp only [run, bind, andThen, h]

instance : LawfulMonad (Act τ) :=
  LawfulMonad.mk' _
    (fun x => by
      funext w
      simp only [Functor.map, andThen]
      rcases x w with _ | ⟨_ | _, w'⟩ <;> rfl)
    (fun _ _ => rfl)
    (fun x f g => by
      funext w
      simp only [bind, andThen]
      rcases x w with _ | ⟨_ | _, w'⟩ <;> rfl)

/-- Looking at the world. -/
def look (f : World τ → α) : Act τ α := fun w => some (.returned (f w), w)

@[simp] theorem run_look (f : World τ → α) (w : World τ) :
    (look f).run w = some (.returned (f w), w) := rfl

/-- Changing the world. -/
def change (f : World τ → World τ) : Act τ Unit := fun w => some (.returned (), f w)

@[simp] theorem run_change (f : World τ → World τ) (w : World τ) :
    (change f).run w = some (.returned (), f w) := rfl

/-- Raising a fault. -/
def raise (e : Fault τ) : Act τ α := fun w => some (.raised e, w)

@[simp] theorem run_raise (e : Fault τ) (w : World τ) :
    (raise e : Act τ α).run w = some (.raised e, w) := rfl

/-- Letting an event be seen. -/
def record (e : Event τ) : Act τ Unit := change (·.record e)

@[simp] theorem run_record (e : Event τ) (w : World τ) :
    (record e).run w = some (.returned (), w.record e) := rfl

/-- Giving a notice. -/
def note (n : Notice τ) : Act τ Unit := record (.notice n)

@[simp] theorem run_note (n : Notice τ) (w : World τ) :
    (note n).run w = some (.returned (), w.record (.notice n)) := rfl

/-- **Making use of a lookup**: its notices are given, and its failure is
raised. -/
def consult (x : Finding τ α) : Act τ α := fun w =>
  match x.outcome with
  | .ok a => some (.returned a, w.told x.notices)
  | .error e => some (.raised e, w.told x.notices)

/-! ## Faults -/

/-- **Going on in another way** after a fault for which there is one. -/
def rescue (x : Act τ α) (handler : Fault τ → Option (Act τ α)) : Act τ α := fun w =>
  match x w with
  | some (.raised e, w) =>
    match handler e with
    | some y => y w
    | none => some (.raised e, w)
  | r => r

/-- An action that returns needs no rescue. -/
theorem run_rescue_of_returned {x : Act τ α} {w w' : World τ} {a : α}
    (h : x.run w = some (.returned a, w')) (handler : Fault τ → Option (Act τ α)) :
    (x.rescue handler).run w = some (.returned a, w') := by
  simp only [run] at h
  simp only [run, rescue, h]

/-- After a fault with a way on, that way is taken. -/
theorem run_rescue_of_raised {x y : Act τ α} {w w' : World τ} {e : Fault τ}
    {handler : Fault τ → Option (Act τ α)} (h : x.run w = some (.raised e, w'))
    (he : handler e = some y) : (x.rescue handler).run w = y.run w' := by
  simp only [run] at h
  simp only [run, rescue, h, he]

/-- A fault without a way on stays what it is. -/
theorem run_rescue_of_raised_of_none {x : Act τ α} {w w' : World τ} {e : Fault τ}
    {handler : Fault τ → Option (Act τ α)} (h : x.run w = some (.raised e, w'))
    (he : handler e = none) : (x.rescue handler).run w = some (.raised e, w') := by
  simp only [run] at h
  simp only [run, rescue, h, he]

/-- **Cleaning up after a fault** of the given kind, which is then raised
again; a fault of the clean-up takes its place. -/
def onFault (x : Act τ α) (kind : Fault τ → Bool) (cleanUp : Act τ Unit) : Act τ α :=
  x.rescue fun e => if kind e then some (do cleanUp; raise e) else none

/-- **Cleaning up in any case**, whether the action returns or raises a
fault; a fault of the clean-up takes its place. -/
def ensuring (x : Act τ α) (cleanUp : Act τ Unit) : Act τ α := do
  let a ← x.onFault (fun _ => true) cleanUp
  cleanUp
  pure a

/-! ## Loops -/

/-- Doing an action in a world, and again in the world that it leaves, until
it has a value to return. -/
def loopIn (body : Act τ (Option α)) (w : World τ) : Option (Ending τ α × World τ) := do
  match ← body w with
  | (.returned none, w) => body |>.loopIn w
  | (.returned (some a), w) => pure (.returned a, w)
  | (.raised e, w) => pure (.raised e, w)
partial_fixpoint

/-- **Doing an action over and over** until it has a value to return. A fault
ends the loop; without either the loop does not end. -/
def loop (body : Act τ (Option α)) : Act τ α := loopIn body

/-- **A loop, unrolled once.** -/
theorem run_loop (body : Act τ (Option α)) (w : World τ) :
    (loop body).run w = (body >>= fun o => o.elim (loop body) pure).run w := by
  simp only [run, loop, bind, andThen]
  rw [loopIn]
  rcases body w with _ | ⟨(_ | a) | e, w'⟩ <;> rfl

end Act

end LocalServer
