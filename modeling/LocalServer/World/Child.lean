import LocalServer.Fault

/-!
# Server processes

A server process that was started is a **child** of this program. It dies
by itself at some point in time, or not at all; it may react when it is
asked to stop, and it dies at once when it is killed. That it is dead shows
only when its exit status is collected: the status stays once it is known.

A `ChildScript` is what a child will do, before it is started; starting it
may also be refused.
-/

namespace LocalServer

variable {τ : Type}

/-- **How a child reacts** when it is asked to stop. -/
inductive Reaction (τ : Type) where
  /-- It goes on. -/
  | ignores
  /-- There is no process any more to be asked. -/
  | gone
  /-- It exits, some time later. -/
  | exits (after : τ) (code : Int)
deriving DecidableEq, Repr

/-- **What a child will do.** -/
structure ChildScript (τ : Type) where
  /-- The fault that is raised instead of starting it, if it is refused. -/
  refusal : Option (Fault τ)
  /-- Its number, if it is not the usual one. -/
  pid : Option Int
  /-- When it exits by itself, counted from its start, and with which
  code. -/
  exit : Option (τ × Int)
  /-- How it reacts when it is asked to stop. -/
  onTerm : Reaction τ
  /-- Whether there is no process any more when it is to be killed. -/
  goneOnKill : Bool
deriving DecidableEq, Repr

/-- A child that runs for ever, unless it is killed. -/
def ChildScript.plain : ChildScript τ :=
  ⟨none, none, none, .ignores, false⟩

/-- **A child.** -/
structure Child (τ : Type) where
  /-- Its number. -/
  pid : Int
  /-- How it reacts when it is asked to stop. -/
  onTerm : Reaction τ
  /-- Whether there is no process any more when it is to be killed. -/
  goneOnKill : Bool
  /-- When it dies and with which code, as things stand. -/
  death : Option (τ × Int)
  /-- Its exit status, once that is collected. -/
  status : Option Int
deriving DecidableEq, Repr

namespace Child

variable [Seconds τ]

/-- A child that is started at the given time. It is the `index`-th one,
which gives it its usual number. -/
def born (script : ChildScript τ) (index : Nat) (now : τ) : Child τ :=
  ⟨script.pid.getD (100 + index), script.onTerm, script.goneOnKill,
    script.exit.map fun (after, code) => (now + after, code), none⟩

/-- **Collecting the status** of a child that is dead by now. -/
def reap (now : τ) (c : Child τ) : Child τ :=
  match c.status, c.death with
  | none, some (time, code) => if now < time then c else { c with status := some code }
  | _, _ => c

/-- **A child that is asked to stop** will exit when it says, unless it
dies before. -/
def asked (now : τ) (c : Child τ) : Child τ :=
  match c.onTerm with
  | .exits after code =>
    match c.death with
    | some (time, _) =>
      if now + after < time then { c with death := some (now + after, code) } else c
    | none => { c with death := some (now + after, code) }
  | _ => c

/-- The exit status of a child that was killed. -/
def killedCode : Int := -9

/-- **A child that is killed** is dead at once, if it was not before. -/
def struck (now : τ) (c : Child τ) : Child τ :=
  let c := c.reap now
  if c.status.isNone then { c with death := some (now, killedCode) } else c

/-- **Waiting for a child**: the time when its status is known, and the
child with its status. A child that never dies has the status zero. -/
def awaited (now : τ) (c : Child τ) : τ × Child τ :=
  let c := c.reap now
  match c.status, c.death with
  | some _, _ => (now, c)
  | none, some (time, code) => (Seconds.later now time, { c with status := some code })
  | none, none => (now, { c with status := some 0 })

/-! ## Statuses stay -/

/-- Collecting does not change a status that is known. -/
theorem reap_of_status {c : Child τ} {code : Int} (h : c.status = some code) (now : τ) :
    c.reap now = c := by
  simp only [reap, h]

/-- After the wait the status is known. -/
theorem isSome_status_awaited (now : τ) (c : Child τ) :
    (c.awaited now).2.status.isSome = true := by
  simp only [awaited]
  split <;> simp_all

@[simp] theorem pid_reap (now : τ) (c : Child τ) : (c.reap now).pid = c.pid := by
  simp only [reap]
  split
  · split <;> rfl
  · rfl

end Child

end LocalServer
