import LocalServer.Proofs.Waiting

/-!
# The child of a bootstrap attempt

Between its start and the moment in which the keeper takes charge of it, a
child belongs to the attempt that has started it, and everything that the
attempt does in that time may be interrupted. The main statement is that no
child is lost on the way: an attempt ends in one of three ways
(`Attempt.Outcome`), and in the one in which it raises a fault the child
that it has started, if there is one, has been killed and waited for.

What an attempt adds to a world is a list of children and a list of dealings
(`World.Gains`), and both lists are known exactly in each of the ways. The
proof follows the phases: nothing before the start touches a child, the start
adds one, waiting for the server touches none, and then the keeper takes
charge of the child or it is given up on.
-/

namespace LocalServer

open Act World

variable {τ : Type}

namespace World

/-- **What is gained** between two worlds: the children that were added, and
the dealings that were seen. -/
structure Gains (w w' : World τ) (new : List (Option (Child τ))) (seen : List (Event τ)) :
    Prop where
  /-- The children that were there are what they were, and the new ones come
  behind them. -/
  children : w'.children = w.children ++ new
  /-- The dealings since. -/
  dealings : w'.dealings = w.dealings ++ seen

variable {w w₁ w' : World τ} {new new' : List (Option (Child τ))} {seen seen' : List (Event τ)}

theorem LeavesChildren.gains (h : LeavesChildren w w') : Gains w w' [] [] where
  children := by rw [h.children, List.append_nil]
  dealings := by rw [h.dealings, List.append_nil]

theorem Gains.trans (h : Gains w w₁ new seen) (h' : Gains w₁ w' new' seen') :
    Gains w w' (new ++ new') (seen ++ seen') where
  children := by rw [h'.children, h.children, List.append_assoc]
  dealings := by rw [h'.dealings, h.dealings, List.append_assoc]

/-- What was gained after the children were left alone. -/
theorem LeavesChildren.gains_trans (h : LeavesChildren w w₁) (h' : Gains w₁ w' new seen) :
    Gains w w' new seen :=
  h.gains.trans h'

/-- What was gained before the children were left alone. -/
theorem Gains.trans_leaves (h : Gains w w₁ new seen) (h' : LeavesChildren w₁ w') :
    Gains w w' new seen := by
  have hg := h.trans h'.gains
  rwa [List.append_nil, List.append_nil] at hg

/-- A child that was added behind all others is there. -/
theorem Gains.child? {c : Child τ} (h : Gains w w' [some c] seen) :
    w'.child? w.children.length = some c := by
  rw [child?_concat h.children, if_pos rfl]

end World

/-! ## Starting a child -/

namespace World

/-- **One child has been started** between two worlds, the `k`-th one, which
is now `c`; and of it, and of no other child, the given calls were seen. -/
structure Starts (w w' : World τ) (k : ChildId) (c : Child τ) (calls : List Call) : Prop where
  place : k = w.children.length
  gains : ∃ command directory flags pid, Gains w w' [some c]
    (.spawn command directory flags (some k) :: calls.map (.call k pid))

/-- **A start was refused** between two worlds, and nothing else was done to
a child. -/
def StartRefused (w w' : World τ) : Prop :=
  ∃ command directory flags, Gains w w' [none] [.spawn command directory flags none]

variable {w w₁ w₂ w' : World τ} {k : ChildId} {c : Child τ} {calls : List Call}

/-- The children may be left alone before a start and after it. -/
theorem Starts.frame (h : LeavesChildren w w₁) (h' : Starts w₁ w₂ k c calls)
    (h'' : LeavesChildren w₂ w') : Starts w w' k c calls where
  place := h'.place.trans (congrArg List.length h.children)
  gains := by
    obtain ⟨command, directory, flags, pid, hg⟩ := h'.gains
    exact ⟨command, directory, flags, pid, (h.gains_trans hg).trans_leaves h''⟩

theorem StartRefused.frame (h : LeavesChildren w w₁) (h' : StartRefused w₁ w₂)
    (h'' : LeavesChildren w₂ w') : StartRefused w w' := by
  obtain ⟨command, directory, flags, hg⟩ := h'
  exact ⟨command, directory, flags, (h.gains_trans hg).trans_leaves h''⟩

/-- A child that has been started is there. -/
theorem Starts.child? (h : Starts w w' k c calls) : w'.child? k = some c := by
  obtain ⟨_, _, _, _, hg⟩ := h.gains
  rw [h.place, hg.child?]

end World

/-- A start adds a child behind all others, or a gap where it was refused. -/
theorem Machine.yields_spawn [Seconds τ] (command : List String) (directory : String)
    (flags : Option Nat) (w : World τ) :
    (spawn command directory flags).Yields w
      (fun k w' => w'.kept = w.kept ∧ ∃ c, c.status = none ∧ Starts w w' k c [])
      (fun _ w' => w'.kept = w.kept ∧ StartRefused w w') := by
  intro ending w' h
  simp only [run, spawn] at h
  split at h <;> cases h
  · exact ⟨rfl, command, directory, flags, rfl, dealings_record _ _⟩
  · exact ⟨rfl, _, rfl, rfl, command, directory, flags, 0, rfl, dealings_record _ _⟩

namespace Keeper

variable [Seconds τ]

/-- **Starting a server** adds one child, or fails because the start was
refused. -/
theorem yields_launch (keeper : Keeper τ) (plan : LaunchPlan) (w : World τ) :
    (keeper.launch plan).Yields w
      (fun k w' => w'.kept = w.kept ∧ ∃ c, c.status = none ∧ Starts w w' k c [])
      (fun _ w' => w'.kept = w.kept ∧ StartRefused w w') := by
  have told : ∀ n (w : World τ), LeavesChildren w (w.record (.notice n)) :=
    fun n w => .record rfl w
  simp only [launch, yields_bind, yields_note, yields_look, yields_pure, yields_rescue,
    yields_raise]
  refine (Machine.yields_spawn _ _ _ _).mono (fun k w' h => ?_) (fun e w' h => ?_)
  · obtain ⟨hk, c, hc, hs⟩ := h
    exact ⟨hk, c, hc, Starts.frame (told _ w) hs (told _ w')⟩
  · exact ⟨h.1, StartRefused.frame (told _ w) h.2 (refl_of LeavesChildren w')⟩

/-! ## The child in charge -/

omit [Seconds τ] in
/-- **Taking charge of a child** is possible if there is none in charge; a
fault leaves everything as it was. -/
theorem yields_takeCharge (k : ChildId) (w : World τ) :
    (takeCharge k).Yields w
      (fun _ w' => w.kept = none ∧ w'.kept = some k ∧ Gains w w' [] [])
      (fun _ w' => LeavesChildren w w') := by
  simp only [takeCharge, yields_bind, yields_look, keptPid]
  cases hk : w.kept with
  | some j => exact (yields_raise _).mpr (refl_of LeavesChildren w)
  | none =>
    simp only [Option.map_none, yields_bind, yields_change, yields_note]
    have told : LeavesChildren w (w.record (.notice (.inCharge (w.pid k)))) := .record rfl w
    exact ⟨trivial, rfl, told.gains.children, told.gains.dealings⟩

/-- **A child that is given up on** has been killed and waited for, and its
status is known. -/
theorem run_giveUp {w : World τ} {k : ChildId} {c : Child τ} (h : w.child? k = some c) :
    ∃ c' now, c'.status.isSome = true ∧
      (giveUp k).run w = some (.returned (),
        afterKill (w.record (.notice (.killingUnhealthy c.pid))) k c.pid c' now) := by
  obtain ⟨c', now, hc', hrun⟩ :=
    run_killAndWait (w := w.record (.notice (.killingUnhealthy c.pid))) h
  refine ⟨c', now, hc', ?_⟩
  rw [giveUp, run_bind_of_returned (run_look _ w), run_bind_of_returned (run_note _ w),
    pid_of_child? h, hrun]

end Keeper

namespace Attempt

/-! ## The three ways -/

/-- **The way in which a server is adopted**: no child was in charge before,
and now it is the one that was started, of which no call was seen. -/
def Adopts (w w' : World τ) : Prop :=
  w.kept = none ∧ ∃ k c, w'.kept = some k ∧ Starts w w' k c []

/-- **The way in which an attempt fails**: the same child is in charge as
before, and no child was started, or it was killed and waited for and its
status is known. -/
def Abandons (w w' : World τ) : Prop :=
  w'.kept = w.kept ∧ (Gains w w' [] [] ∨ StartRefused w w' ∨
    ∃ k c, c.status.isSome = true ∧ Starts w w' k c [.kill, .wait])

/-- **How an attempt may end**: with a server that it has started and that
the keeper is in charge of; with a server that answered already, in which
case nothing was done to any child; or with a fault. -/
def Outcome (w : World τ) (ending : Ending τ Ready) (w' : World τ) : Prop :=
  match ending with
  | .returned ⟨_, true⟩ => Adopts w w'
  | .returned ⟨_, false⟩ => LeavesChildren w w'
  | .raised _ => Abandons w w'

variable {w w₁ w₂ w' : World τ}

theorem Adopts.frame (h : LeavesChildren w w₁) (h' : Adopts w₁ w') : Adopts w w' := by
  obtain ⟨hfree, k, c, hk, hs⟩ := h'
  exact ⟨h.kept.symm.trans hfree, k, c, hk, hs.frame h (refl_of LeavesChildren w')⟩

theorem Abandons.frame (h : LeavesChildren w w₁) (h' : Abandons w₁ w₂)
    (h'' : LeavesChildren w₂ w') : Abandons w w' := by
  refine ⟨h''.kept.trans (h'.1.trans h.kept), ?_⟩
  rcases h'.2 with hg | hr | ⟨k, c, hc, hs⟩
  · exact Or.inl ((h.gains_trans hg).trans_leaves h'')
  · exact Or.inr (Or.inl (hr.frame h h''))
  · exact Or.inr (Or.inr ⟨k, c, hc, hs.frame h h''⟩)

/-- The children may be left alone before an attempt comes to something. -/
theorem Outcome.frame {ending : Ending τ Ready} (h : LeavesChildren w w₁)
    (h' : Outcome w₁ ending w') : Outcome w ending w' := by
  match ending, h' with
  | .returned ⟨_, true⟩, h' => exact Adopts.frame h h'
  | .returned ⟨_, false⟩, h' => exact trans_of LeavesChildren h h'
  | .raised _, h' => exact Abandons.frame h h' (refl_of LeavesChildren w')

theorem Outcome.raised (h : LeavesChildren w w') (e : Fault τ) : Outcome w (.raised e) w' :=
  ⟨h.kept, Or.inl h.gains⟩

/-- **A part of an attempt settles it** if it ends in one of the three
ways. -/
def Settles (x : Act τ Ready) : Prop :=
  ∀ w, x.Yields w (fun ready w' => Outcome w (.returned ready) w')
    (fun e w' => Outcome w (.raised e) w')

/-- What leaves the children alone may come before what settles the
attempt. -/
theorem Settles.after {α : Type} {x : Act τ α} {f : α → Act τ Ready}
    (hx : x.Keeps LeavesChildren) (hf : ∀ a, Settles (f a)) : Settles (x >>= f) := by
  intro w
  refine yields_bind.mpr ((hx w).mono (fun a w₁ h₁ => ?_) (fun e w₁ h₁ => .raised h₁ e))
  exact (hf a w₁).mono (fun _ _ h => h.frame h₁) (fun _ _ h => h.frame h₁)

/-- A server that answers already settles an attempt. -/
theorem settles_found (baseUrl : String) : Settles (pure ⟨baseUrl, false⟩ : Act τ Ready) :=
  fun w => (yields_pure _).mpr (refl_of LeavesChildren w)

theorem settles_raise (e : Fault τ) : Settles (raise e) :=
  fun w => (yields_raise e).mpr (.raised (refl_of LeavesChildren w) e)

/-! ## From the start on -/

variable [Seconds τ]

/-- While a server is waited for, its child is left alone; then the keeper is
in charge of it, which was in charge of none. -/
theorem yields_adopt (a : Attempt τ) (baseUrl : String) (k : ChildId) (w : World τ) :
    (a.adopt baseUrl k).Yields w
      (fun _ w' => w.kept = none ∧ w'.kept = some k ∧ Gains w w' [] [])
      (fun _ w' => LeavesChildren w w') := by
  refine yields_bind.mpr ((HealthCheck.keeps_await _ _ _ w).mono
    (fun healthy w₁ h₁ => ?_) (fun _ _ h => h))
  split
  · refine (Keeper.yields_takeCharge k w₁).mono (fun _ w' h => ?_)
      (fun _ w' h => trans_of LeavesChildren h₁ h)
    exact ⟨h₁.kept.symm.trans h.1, h.2.1, h₁.gains_trans h.2.2⟩
  · exact (yields_raise _).mpr h₁

omit [Seconds τ] in
/-- What a child that was given up on leaves behind. -/
theorem abandons_of_giveUp {k : ChildId} {c c' : Child τ} {pid : Int} {now : τ}
    (hs : Starts w w₁ k c []) (hk : w₁.kept = w.kept) (hl : LeavesChildren w₁ w₂)
    (hc : c'.status.isSome = true) :
    Abandons w (Keeper.afterKill w₂ k pid c' now) := by
  obtain ⟨command, directory, flags, _, hg⟩ := hs.gains
  refine ⟨hl.kept.trans hk, Or.inr (Or.inr ⟨k, c', hc, hs.place, ?_⟩)⟩
  refine ⟨command, directory, flags, pid, ?_, ?_⟩
  · show w₂.children.set k (some c') = w.children ++ [some c']
    rw [hl.children, hg.children, hs.place, List.set_append_right _ _ (Nat.le_refl _),
      Nat.sub_self, List.set_cons_zero]
  · show ((w₂.record (.call k pid .kill)).record (.call k pid .wait)).dealings = _
    rw [dealings_record, dealings_record, hl.dealings, hg.dealings]
    simp only [Event.isDealing, if_true, List.map_cons, List.map_nil, List.append_assoc,
      List.cons_append, List.nil_append]

/-- **A child that was started is adopted or given up on**, whatever comes
between. -/
theorem settles_start (a : Attempt τ) (plan : LaunchPlan) : Settles (a.start plan) := by
  refine .after (keeps_enter .spawning) (fun _ w => ?_)
  have hl := fun phase => leaves_entered (τ := τ) phase
  simp only [yields_bind, yields_onFault, yields_enter, yields_pure, if_true]
  refine (a.keeper.yields_launch plan w).mono (fun k w₁ h₁ => ?_) (fun e w₁ h₁ => ?_)
  · -- the child is there, and belongs to nobody until it is adopted
    obtain ⟨hk₁, c, -, hs₁⟩ := h₁
    have hs : Starts w (entered .waitingHealthy w₁) k c [] :=
      hs₁.frame (refl_of LeavesChildren w) (hl _ w₁)
    refine (a.yields_adopt _ k _).mono (fun _ w₂ h₂ => ?_) (fun e w₂ h₂ => ?_)
    · obtain ⟨hfree, hk₂, hg₂⟩ := h₂
      refine ⟨hk₁.symm.trans hfree, k, c, hk₂, hs.place, ?_⟩
      obtain ⟨command, directory, flags, pid, hg⟩ := hs.gains
      exact ⟨command, directory, flags, pid, (hg.trans hg₂).trans_leaves (hl _ w₂)⟩
    · have hc₂ : w₂.child? k = some c := (h₂.child? k).trans hs.child?
      obtain ⟨c', now, hc', hrun⟩ := Keeper.run_giveUp hc₂
      refine (yields_of_returned hrun).mpr ?_
      exact (abandons_of_giveUp hs hk₁ (trans_of LeavesChildren h₂ (.record rfl w₂)) hc').frame
        (refl_of LeavesChildren w) (hl _ _)
  · have hr : Abandons w w₁ := ⟨h₁.1, Or.inr (Or.inl h₁.2)⟩
    split
    · exact hr.frame (refl_of LeavesChildren w) (hl _ w₁)
    · exact hr

/-! ## The whole attempt -/

/-- An attempt that has looked for the runtime starts a server, unless one
answers by then. -/
theorem settles_discoverAndStart (a : Attempt τ) (baseUrl : String) (resources : Option Path) :
    Settles (a.discoverAndStart baseUrl resources) := by
  refine .after (keeps_enter .discovering) (fun _ => ?_)
  refine .after ((a.keeps_discover baseUrl resources).onFault (keeps_enter .failed))
    (fun plan => ?_)
  refine .after (HealthCheck.keeps_check _ _) (fun healthy => ?_)
  split
  · exact .after (keeps_note _) fun _ => .after (keeps_enter .ready) fun _ => settles_found _
  · exact a.settles_start plan

/-- **An attempt is settled**, whenever it ends. -/
theorem settles_makeReady (a : Attempt τ) (resources : Option Path) :
    Settles (a.makeReady resources) := by
  refine .after (Keeps.change fun _ => ⟨rfl, rfl, rfl⟩) (fun _ => ?_)
  refine .after a.keeps_baseUrl (fun baseUrl => ?_)
  split
  · refine .after (HealthCheck.keeps_check _ _) (fun healthy => ?_)
    split
    · exact .after (keeps_note _) fun _ => .after (keeps_enter .ready) fun _ => settles_found _
    · exact a.settles_discoverAndStart baseUrl resources
  · exact .after (keeps_enter .failed) fun _ => settles_raise _

end Attempt

/-! ## An attempt ends -/

namespace Attempt

variable {a : Attempt Rat} {w : World Rat}

theorem ends_adopt (hp : 0 < a.pollInterval) (hw : w.IsForward) (baseUrl : String) (k : ChildId) :
    (a.adopt baseUrl k).Ends w := by
  refine (HealthCheck.ends_await _ _ hp hw).bind (fun healthy _ => ?_)
  split
  · exact Keeper.ends_takeCharge k
  · exact ends_raise _

theorem ends_start (hp : 0 < a.pollInterval) (hw : w.IsForward) (plan : LaunchPlan) :
    (a.start plan).Ends w := by
  refine ends_after (fun _ => ends_enter _) (idle_flows.keeps_enter _) (fun _ w₁ hw₁ => ?_) hw
  refine ends_after (fun _ => ends_onFault (a.keeper.ends_launch plan) (fun _ => ends_enter _))
    ((a.keeper.flows_launch plan).onFault (idle_flows.keeps_enter _)) (fun k w₂ hw₂ => ?_) hw₁
  refine ends_after (fun _ => ends_enter _) (idle_flows.keeps_enter _) (fun _ w₃ hw₃ => ?_) hw₂
  refine (ends_onFault (ends_adopt hp hw₃ _ k) (fun _ => ?_)).bind
    (fun _ _ => (ends_enter _).bind (fun _ _ => ends_pure _))
  exact (Keeper.ends_giveUp k).bind (fun _ _ => ends_enter _)

theorem ends_discoverAndStart (hp : 0 < a.pollInterval) (hw : w.IsForward) (baseUrl : String)
    (resources : Option Path) : (a.discoverAndStart baseUrl resources).Ends w := by
  refine ends_after (fun _ => ends_enter _) (idle_flows.keeps_enter _) (fun _ w₁ hw₁ => ?_) hw
  refine ends_after (fun _ => ends_onFault ((ends_look _).bind (fun x _ => ends_consult x))
    (fun _ => ends_enter _)) ((idle_flows.keeps_discover a baseUrl resources).onFault
      (idle_flows.keeps_enter _)) (fun plan w₂ hw₂ => ?_) hw₁
  refine ends_after (fun _ => HealthCheck.ends_check _ _) (idle_flows.keeps_check _ _)
    (fun healthy w₃ hw₃ => ?_) hw₂
  split
  · exact (ends_note _).bind (fun _ _ => (ends_enter _).bind (fun _ _ => ends_pure _))
  · exact ends_start hp hw₃ plan

/-- **An attempt ends** if the pauses of its wait are longer than nothing. -/
theorem ends_makeReady (hp : 0 < a.pollInterval) (hw : w.IsForward) (resources : Option Path) :
    (a.makeReady resources).Ends w := by
  have hphase : (change fun w : World Rat => { w with phase := .unchecked }).Keeps Flows :=
    Keeps.change fun _ => .of_eq rfl rfl rfl rfl
  refine ends_after (fun _ => ends_change _) hphase (fun _ w₁ hw₁ => ?_) hw
  refine ends_after (fun _ => (ends_look _).bind (fun x _ => ends_consult x))
    (idle_flows.keeps_baseUrl a) (fun baseUrl w₂ hw₂ => ?_) hw₁
  split
  · refine ends_after (fun _ => HealthCheck.ends_check _ _) (idle_flows.keeps_check _ _)
      (fun healthy w₃ hw₃ => ?_) hw₂
    split
    · exact (ends_note _).bind (fun _ _ => (ends_enter _).bind (fun _ _ => ends_pure _))
    · exact ends_discoverAndStart hp hw₃ baseUrl resources
  · exact (ends_enter _).bind (fun _ _ => ends_raise _)

end Attempt

namespace World

/-- A world in which the runtime stands beside the executable, in `/app`. Nobody
answers in it yet. -/
def withRuntime : World Rat :=
  let java := ((FileTree.empty []).insert (.ofString "/app/jre/bin/java") (.file .empty)).1
  let files := (java.insert (.ofString "/app/bin/Suwayomi-Server.jar") (.file .empty)).1
  { still 0 files ⟨[], none⟩ with executable := "/app/launcher" }

/-- The command line with which a server is started in that world. -/
def runtimeCommand : List String :=
  ["/app/jre/bin/java",
    "-Dsuwayomi.tachidesk.config.server.initialOpenInBrowserEnabled=false",
    "-Dsuwayomi.tachidesk.config.server.webUIInterface=browser",
    "-jar", "/app/bin/Suwayomi-Server.jar"]

end World

namespace Attempt

/-- **No child is lost by a bootstrap attempt.** On any scale of seconds and
in any world, an attempt that ends does so in one of the three ways: a server
that it has started is the one in charge, and was not called; or nothing was
done to a child; or the attempt fails, the same child is in charge as before,
and a child that was started was killed and waited for and has a status. In
each of them at most one child was started.

On the exact scale the attempt does end, if the pauses of its wait are longer
than nothing and answers take no negative time. -/
theorem makeReady_adopts_or_reaps :
    (∀ {τ : Type} [Seconds τ] (a : Attempt τ) (resources : Option Path) (w : World τ)
      (ending : Ending τ Ready) (w' : World τ),
      (a.makeReady resources).run w = some (ending, w') → Outcome w ending w') ∧
    ∀ (a : Attempt Rat) (resources : Option Path) (w : World Rat),
      0 < a.pollInterval → w.IsForward →
      ∃ ending w', (a.makeReady resources).run w = some (ending, w') := by
  constructor
  · intro τ _ a resources w ending w' hrun
    have h := a.settles_makeReady resources w ending w' hrun
    cases ending with
    | returned ready => exact h
    | raised e => exact h
  · intro a resources w hp hw
    exact (ends_makeReady hp hw resources).exists_run

/-- An attempt that finds the runtime and starts a child, in a world in which
requests are refused after a while and the user interrupts in the first pause
of the wait: the child is killed and waited for, and the interruption goes on. -/
theorem makeReady_adopts_or_reaps_of_interruption :
    let a : Attempt Rat := .usual .linux (some "http://127.0.0.1:4567")
    let w : World Rat := { withRuntime with
      probes := [⟨some 0.2, .failed "connection refused"⟩]
      scripts := [{ ChildScript.plain with exit := some (1, 0) }]
      interruptions := [(1, .fault .interrupted)] }
    0 < a.pollInterval ∧ w.IsForward ∧
      ∃ w', (a.makeReady none).run w = some (.raised .interrupted, w') ∧
        w'.dealings = [.spawn runtimeCommand "/app" none (some 0), .call 0 100 .kill,
          .call 0 100 .wait] ∧
        (w'.child? 0).bind Child.status = some (-9) ∧ Outcome w (.raised .interrupted) w' := by
  intro a w
  have hp : 0 < a.pollInterval := by decide +kernel
  have hw : w.IsForward := by
    intro p hmem cost hcost
    cases List.mem_singleton.mp hmem
    cases hcost
    decide +kernel
  obtain ⟨ending, w', hrun⟩ := makeReady_adopts_or_reaps.2 a none w hp hw
  -- the wait is interrupted in its first round, so one round is enough to compute the run
  have hseen : ((a.makeReady none).run w).map
      (fun r => (r.1, r.2.dealings, (r.2.child? 0).bind Child.status))
      = some (.raised .interrupted,
        [.spawn runtimeCommand "/app" none (some 0), .call 0 100 .kill, .call 0 100 .wait],
        some (-9)) := by
    simp only [makeReady, discoverAndStart, start, adopt, HealthCheck.await, loop_eq_unrolled 1]
    decide +kernel
  rw [hrun, Option.map_some, Option.some.injEq, Prod.mk.injEq, Prod.mk.injEq] at hseen
  obtain ⟨rfl, hdealings, hstatus⟩ := hseen
  exact ⟨hp, hw, w', hrun, hdealings, hstatus, makeReady_adopts_or_reaps.1 a none w _ w' hrun⟩

end Attempt

end LocalServer
