import LocalServer.Attempt

/-!
# Sessions

A **session** is a world and the settings of the attempts that are made in
it, and what is done in it is a sequence of **steps**: bootstrap attempts,
shutdowns and the like, and also what happens around them, when time
passes, variables are set, or files come and go. A fault ends the step in
which it is raised, and the session goes on.
-/

namespace LocalServer

open Act

variable {τ : Type} [Seconds τ]

/-- **A session.** -/
structure Session (τ : Type) where
  /-- The settings of its attempts. -/
  attempt : Attempt τ
  /-- The world. -/
  world : World τ

/-- **A step** of a session. -/
inductive Step (τ : Type) where
  /-- A bootstrap attempt. -/
  | makeReady (resources : Option Path)
  /-- The base address, unchecked. -/
  | address
  /-- A shutdown. -/
  | shutdown
  /-- A look whether the child in charge is running. -/
  | isAlive
  /-- The keeper takes charge of a child. -/
  | takeCharge (child : ChildId)
  /-- A child is given up on. -/
  | giveUp (child : ChildId)
  /-- The status of a child, as far as it was collected. -/
  | status (child : ChildId)
  /-- A server is started. -/
  | launch (plan : LaunchPlan)
  /-- A child is waited for. -/
  | awaitExit (child : ChildId) (timeout interval : τ)
  /-- A health check. -/
  | check (baseUrl : String) (timeout : τ)
  /-- A server is waited for. -/
  | await (baseUrl : String) (timeout interval : τ)
  /-- The keeper is told to work on another platform. -/
  | usePlatform (name : String)
  /-- Time passes. -/
  | advance (span : τ)
  /-- A variable is set, or unset. -/
  | setVariable (name : String) (value : Option String)
  /-- Something is put into the file tree. -/
  | write (path : Path) (node : FileTree.Node)
  /-- Something is taken out of the file tree. -/
  | remove (path : Path)

/-- **What a step comes to.** -/
inductive StepResult where
  /-- Nothing but its effects. -/
  | done
  /-- A yes or a no. -/
  | flag (value : Bool)
  /-- A text. -/
  | text (value : String)
  /-- A number, if there is one. -/
  | number (value : Option Int)
  /-- A server that answers. -/
  | ready (value : Ready)
deriving DecidableEq, Repr

namespace Session

/-- The world in which a child has been started; it is started if it was
not. -/
def summon (w : World τ) (k : ChildId) : World τ :=
  match w.child? k with
  | some _ => w
  | none =>
    let script := (w.scripts[k]?).getD .plain
    let children := w.children ++ List.replicate (k + 1 - w.children.length) none
    { w with children := children.set k (some (.born script k w.clock)) }

/-- **What is done in a step.** -/
def act (a : Attempt τ) : Step τ → Act τ StepResult
  | .makeReady resources => .ready <$> a.makeReady resources
  | .address => .text <$> a.baseUrl
  | .shutdown => do
    a.keeper.shutdown
    pure .done
  | .isAlive => .flag <$> Keeper.isAlive
  | .takeCharge k => do
    change (summon · k)
    Keeper.takeCharge k
    pure .done
  | .giveUp k => do
    change (summon · k)
    Keeper.giveUp k
    pure .done
  | .status k => do
    change (summon · k)
    look fun w => .number ((w.child? k).bind Child.status)
  | .launch plan => do
    let k ← a.keeper.launch plan
    look fun w => .number (some (w.pid k))
  | .awaitExit k timeout interval => do
    change (summon · k)
    .flag <$> Keeper.awaitExit k timeout interval
  | .check baseUrl timeout => .flag <$> HealthCheck.check baseUrl timeout
  | .await baseUrl timeout interval => .flag <$> HealthCheck.await baseUrl timeout interval
  | .usePlatform name => do
    match ← look fun w => (Platform.select w.system (some name) : Except (Fault τ) Platform) with
    | .ok platform => pure (.text platform.name)
    | .error e => raise e
  | .advance span => do
    change fun w => { w with clock := w.clock + span }
    pure .done
  | .setVariable name value => do
    change fun w => { w with environment := w.environment.update name value }
    pure .done
  | .write path node => do
    let (files, outcome) ← look fun w => w.files.insert path node
    change fun w => { w with files := files }
    match outcome with
    | .ok () => pure .done
    | .error o => raise o.fault
  | .remove path => do
    match ← look fun w => w.files.erase path with
    | .ok files =>
      change fun w => { w with files := files }
      pure .done
    | .error o => raise o.fault

/-- The settings of the attempts after a step. -/
def attemptAfter (s : Session τ) : Step τ → Attempt τ
  | .usePlatform name =>
    match (Platform.select s.world.system (some name) : Except (Fault τ) Platform) with
    | .ok platform =>
      { s.attempt with keeper := { s.attempt.keeper with platform := platform } }
    | .error _ => s.attempt
  | _ => s.attempt

/-- **A step**: how it ends, and the session after it, if it ends. -/
def step (s : Session τ) (t : Step τ) : Option (Ending τ StepResult × Session τ) := do
  let (ending, world) ← (act s.attempt t).run s.world
  pure (ending, ⟨s.attemptAfter t, world⟩)

/-- **A run** of a session: after each step, how it has ended, and the
session. There is none if one of the steps does not end. -/
def run (s : Session τ) : List (Step τ) → Option (List (Ending τ StepResult × Session τ))
  | [] => some []
  | t :: ts => do
    let (ending, after) ← s.step t
    let rest ← after.run ts
    pure ((ending, after) :: rest)

/-- **The worlds of a run**: the one before the first step, and the one after
each step. -/
def worlds (s : Session τ) (outs : List (Ending τ StepResult × Session τ)) : List (World τ) :=
  s.world :: outs.map fun out => out.2.world

/-- A step does what is done in it. -/
theorem run_act_of_step {s s' : Session τ} {t : Step τ} {ending : Ending τ StepResult}
    (h : s.step t = some (ending, s')) :
    (act s.attempt t).run s.world = some (ending, s'.world) := by
  obtain ⟨⟨_, world⟩, hrun, hpure⟩ := Option.bind_eq_some_iff.mp h
  cases hpure
  exact hrun

/-- What is done in a step makes it. -/
theorem step_of_run_act {s : Session τ} {t : Step τ} {ending : Ending τ StepResult} {w : World τ}
    (h : (act s.attempt t).run s.world = some (ending, w)) :
    s.step t = some (ending, ⟨s.attemptAfter t, w⟩) := by
  rw [step, h]
  rfl

/-- A step and then a run are a run of one step more. -/
theorem run_cons {s s' : Session τ} {t : Step τ} {ts : List (Step τ)}
    {ending : Ending τ StepResult} {rest : List (Ending τ StepResult × Session τ)}
    (hstep : s.step t = some (ending, s')) (hrest : s'.run ts = some rest) :
    s.run (t :: ts) = some ((ending, s') :: rest) := by
  rw [run, hstep, Option.bind_eq_bind, Option.bind_some]
  dsimp only
  rw [hrest]
  rfl

/-- A run of one step and more is the step and then the run of the rest. -/
theorem of_run_cons {s : Session τ} {t : Step τ} {ts : List (Step τ)}
    {outs : List (Ending τ StepResult × Session τ)} (h : s.run (t :: ts) = some outs) :
    ∃ ending s' rest, s.step t = some (ending, s') ∧ s'.run ts = some rest ∧
      outs = (ending, s') :: rest := by
  obtain ⟨⟨ending, s'⟩, hstep, h⟩ := Option.bind_eq_some_iff.mp h
  obtain ⟨rest, hrest, h⟩ := Option.bind_eq_some_iff.mp h
  cases h
  exact ⟨ending, s', rest, hstep, hrest, rfl⟩

end Session

end LocalServer
