import LocalServer.Proofs.Custody
import LocalServer.Proofs.Retelling

/-!
# No signal to a child that is gone

Once the status of a child has been collected, its number may belong to
another process. So no signal and no kill must be aimed at it then, and none
is: whatever is done in a session, and whatever interrupts it, each signal and
each kill finds a child without a status, and no child gets more than one
signal and one kill, the kill last.

That the keeper sends at most these two follows from whom it sends them to. It
stops only the child in charge, and lets go of it for good before; an attempt
kills only the child that it has started itself, and then never hands it over.
So no signal and no kill was ever seen of the child in charge, nor of a child
that is still to come (`World.Chronicled`), and each step adds at most a signal
and a kill on one of these.
-/

namespace LocalServer

open Act World

variable {τ : Type} [Seconds τ]

/-! ## Single calls -/

namespace Machine

variable {w : World τ} {k : ChildId}

/-- Looking at a child is always careful. -/
theorem careful_poll (j k : ChildId) : (poll j : Act τ _).Keeps (Careful k []) := by
  intro w ending w' h
  have hanswered := (careful_answered (w := w) (k := j) .poll (fun hf => by cases hf)).any k
  cases hc : w.child? j with
  | some c =>
    rw [run_poll hc] at h
    cases h
    rwa [answered_of_child? hc] at hanswered
  | none =>
    have hcalled : (w.called j .poll).child? j = none := hc
    simp only [run, poll, bind, andThen, recordCall, change] at h
    rw [← called, hcalled] at h
    cases h
    rwa [answered_of_none hc] at hanswered

/-- Waiting for a child is always careful. -/
theorem careful_wait (j k : ChildId) : (wait j : Act τ _).Keeps (Careful k []) := by
  intro w ending w' h
  have hanswered := (careful_answered (w := w) (k := j) .wait (fun hf => by cases hf)).any k
  cases hc : w.child? j with
  | some c =>
    rw [run_wait hc] at h
    cases h
    rw [answered_of_child? hc] at hanswered
    exact hanswered.before (.of_eq rfl rfl rfl)
  | none =>
    have hcalled : (w.called j .wait).child? j = none := hc
    simp only [run, wait, bind, andThen, recordCall, change] at h
    rw [← called, hcalled] at h
    cases h
    rwa [answered_of_none hc] at hanswered

/-- **A signal** is careful if the child has no status. -/
theorem careful_ask (h : w.Unreaped k) :
    (ask k).Yields w (fun _ => Careful k [.signal terminate] w)
      (fun _ => Careful k [.signal terminate] w) := by
  have hanswered := careful_answered (.signal terminate) (fun _ => h)
  obtain ⟨c, hc, -⟩ := h
  rw [answered_of_child? hc] at hanswered
  obtain ⟨ending, hending, hask⟩ := run_ask hc
  rcases hending with rfl | rfl
  · exact (yields_of_returned hask).mpr hanswered
  · exact (yields_of_raised hask).mpr hanswered

/-- **A kill** is careful if the child has no status. -/
theorem careful_kill (h : w.Unreaped k) :
    (kill k).Yields w (fun _ => Careful k [.kill] w) (fun _ => Careful k [.kill] w) := by
  have hanswered := careful_answered .kill (fun _ => h)
  obtain ⟨c, hc, -⟩ := h
  have hcalled : (w.called k .kill).child? k = some c := hc
  have hkill := run_kill hc
  rw [answered_of_child? hc, Child.answering] at hanswered
  split at hkill
  · next hgone =>
    -- a child that is gone stays what it is
    rw [if_pos hgone, setChild_of_child? hcalled] at hanswered
    exact (yields_of_raised hkill).mpr hanswered
  · next hgone =>
    rw [if_neg hgone] at hanswered
    exact (yields_of_returned hkill).mpr hanswered

/-- A start brings a child into the world, or leaves a gap. -/
theorem careful_spawn (command : List String) (directory : String) (flags : Option Nat)
    (k : ChildId) : (spawn command directory flags : Act τ _).Keeps (Careful k []) := by
  have hforced : ∀ (o : Option ChildId) (w : World τ) (j : ChildId),
      forcedOn j [(w.clock, Event.spawn command directory flags o)] = [] := fun _ _ _ => rfl
  intro w ending w' h
  simp only [run, spawn] at h
  split at h <;> cases h
  · -- a start that is refused takes a place, but there is no child in it
    refine ⟨_, ⟨timeline_record w _, rfl, by simp, fun j => ?_⟩, ?_, fun j => ?_⟩
    · rw [child?_concat rfl, retell_singleton]
      split
      · next hj =>
        rw [hj, World.child?, List.getElem?_eq_none (Nat.le_refl _)]
        rfl
      · rfl
    · exact fun i now j pid call hi hf => by cases i <;> cases hi
    · rw [hforced]
      exact List.nil_sublist _
  · refine ⟨_, ⟨timeline_record w _, rfl, by simp, fun j => ?_⟩, ?_, fun j => ?_⟩
    · rw [child?_concat rfl, retell_singleton, retold]
      split
      · next hj => rw [if_pos hj.symm, hj]
      · next hj => rw [if_neg (Ne.symm hj)]
    · exact fun i now j pid call hi hf => by cases i <;> cases hi
    · rw [hforced]
      exact List.nil_sublist _

theorem careful_sleep (pause : τ) (k : ChildId) : (sleep pause).Keeps (Careful k []) := by
  have hslept : ∀ (w : World τ) (n : Nat) (now : τ),
      Careful k [] w { w.record (.sleep pause) with pauses := n, clock := now } := by
    refine fun w n now => .of_not_dealing (timeline_record w _) rfl rfl (fun e he => ?_)
    rw [List.mem_singleton.mp he]
    rfl
  intro w ending w' h
  simp only [run, sleep] at h
  split at h
  · cases h
    exact hslept w _ _
  · split at h <;> cases h
    · exact hslept w _ _
    · exact hslept w _ _

end Machine

/-- **What goes on besides** is careful. -/
theorem Session.besides_careful (k : ChildId) :
    Besides (Careful k [] : World τ → World τ → Prop) where
  note w n := by
    refine .of_not_dealing (timeline_record w _) rfl rfl (fun e he => ?_)
    rw [List.mem_singleton.mp he]
    rfl
  phase _ _ := .of_eq rfl rfl rfl
  probe url timeout := by
    intro w ending w' h
    cases h
    refine .of_not_dealing (timeline_record w _) rfl rfl (fun e he => ?_)
    rw [List.mem_singleton.mp he]
    rfl
  sleep pause := Machine.careful_sleep pause k
  around _ _ _ _ := .of_eq rfl rfl rfl

/-! ## The keeper -/

namespace Keeper

variable {w : World τ} {k : ChildId}

theorem careful_note (n : Notice τ) (k : ChildId) : (note n).Keeps (Careful k []) :=
  (Session.besides_careful k).keeps_note n

/-- To wait for a child is to look at it, and to pause. -/
theorem careful_awaitExit (timeout interval : τ) (j k : ChildId) :
    (awaitExit j timeout interval).Keeps (Careful k []) :=
  (Keeps.look _).bind fun start => Keeps.loop
    (keeps_awaitRound (Machine.careful_poll j k) (Machine.careful_sleep interval k) timeout start)

/-- A child without a status may be asked to stop. -/
theorem careful_askToStop (platform : Platform) (h : w.Unreaped k) :
    (askToStop platform k).Yields w (fun _ => Careful k [.signal Machine.terminate] w)
      (fun _ => Careful k [.signal Machine.terminate] w) := by
  have told : ∀ (n : Notice τ) {w₁ : World τ}, Careful k [.signal Machine.terminate] w w₁ →
      Careful k [.signal Machine.terminate] w (w₁.record (.notice n)) :=
    fun n w₁ h₁ => h₁.before ((Session.besides_careful k).note w₁ n)
  simp only [askToStop, yields_bind, yields_look]
  split
  · simp only [yields_rescue, yields_bind, yields_note]
    refine (Machine.careful_ask h).mono (fun _ w₁ h₁ => told _ h₁) (fun e w₁ h₁ => ?_)
    split
    · next hgone =>
      split at hgone
      · rw [← Option.some.inj hgone]
        exact yields_note.mpr (told _ h₁)
      · cases hgone
    · exact h₁
  · exact yields_note.mpr (((Session.besides_careful k).note w _).mono (List.nil_sublist _))

/-- A child without a status may be killed for good. -/
theorem careful_killAndWait (h : w.Unreaped k) :
    (killAndWait k).Yields w (fun _ => Careful k [.kill] w) (fun _ => Careful k [.kill] w) := by
  have waited : ∀ {w₁ : World τ}, Careful k [.kill] w w₁ → (Machine.wait k).Yields w₁
      (fun _ => Careful k [.kill] w) (fun _ => Careful k [.kill] w) :=
    fun {w₁} h₁ => (Machine.careful_wait k k w₁).mono (fun _ _ => h₁.before) (fun _ _ => h₁.before)
  refine yields_bind.mpr (yields_rescue.mpr
    ((Machine.careful_kill h).mono (fun _ _ => waited) (fun e w₁ h₁ => ?_)))
  split
  · next y hgone =>
    split at hgone
    · rw [← Option.some.inj hgone]
      exact (yields_pure _).mpr (waited h₁)
    · cases hgone
  · exact h₁

theorem careful_giveUp (h : w.Unreaped k) :
    (giveUp k).Yields w (fun _ => Careful k [.kill] w) (fun _ => Careful k [.kill] w) := by
  have told := (Session.besides_careful k).note w (.killingUnhealthy (w.pid k))
  simp only [giveUp, yields_bind, yields_look, yields_note]
  exact (careful_killAndWait (h.of_leaves (.record rfl w))).mono
    (fun _ _ => told.after) (fun _ _ => told.after)

/-- **Stopping a child** takes at most a signal and then a kill, and it has no
status when it gets them. -/
theorem careful_stop (keeper : Keeper τ) (h : w.Unreaped k) :
    (keeper.stop k).Yields w (fun _ => Careful k [.signal Machine.terminate, .kill] w)
      (fun _ => Careful k [.signal Machine.terminate, .kill] w) := by
  have hidle := Session.besides_careful (τ := τ) k
  have signalled : [Call.signal Machine.terminate].Sublist [.signal Machine.terminate, .kill] :=
    List.sublist_append_left _ [Call.kill]
  have hnote := hidle.note w (.stopping (w.pid k))
  have hopen := h.of_leaves (LeavesChildren.record (e := .notice (.stopping (w.pid k))) rfl w)
  simp only [stop, yields_bind, yields_look, yields_note]
  refine ((careful_askToStop keeper.platform hopen).and
    (yields_askToStop keeper.platform hopen)).mono (fun _ w₁ hasked => ?_)
    (fun _ _ h => h.2.elim)
  obtain ⟨h₁, -, hopen₁⟩ := hasked
  replace h₁ := hnote.after h₁
  -- the wait is over without a status of the child only if the last look has shown none
  refine ((careful_awaitExit _ _ k k w₁).and (yields_awaitExit _ _ hopen₁)).mono
    (fun exited w₂ hawaited => ?_) (fun _ _ h => (h₁.before h.1).mono signalled)
  obtain ⟨h₂, -, hopen₂⟩ := hawaited
  split
  · exact yields_note.mpr (((h₁.before h₂).before (hidle.note w₂ _)).mono signalled)
  · next hexited =>
    rw [if_neg hexited] at hopen₂
    have hnote₂ := hidle.note w₂ (.notStopped (w.pid k) keeper.shutdownTimeout)
    simp only [yields_bind, yields_note]
    refine (careful_killAndWait (hopen₂.of_leaves (.record rfl w₂))).mono (fun _ w₃ h₃ => ?_)
      (fun _ w₃ h₃ => (h₁.before h₂).trans (hnote₂.after h₃))
    exact ((h₁.before h₂).trans (hnote₂.after h₃)).before (hidle.note w₃ _)

/-- **A shutdown** is careful with the child in charge. -/
theorem careful_shutdown (keeper : Keeper τ) {c : Child τ} (hk : w.kept = some k)
    (hc : w.child? k = some c) :
    keeper.shutdown.Yields w (fun _ => Careful k [.signal Machine.terminate, .kill] w)
      (fun _ => Careful k [.signal Machine.terminate, .kill] w) := by
  have hrelease : Careful k [] w { w with kept := none } := .of_eq rfl rfl rfl
  have hreleased : ({ w with kept := none } : World τ).child? k = some c := hc
  have hpoll := Machine.run_poll hreleased
  have hpolled := hrelease.before ((Machine.careful_poll k k).of_run hpoll)
  simp only [shutdown, yields_bind, yields_of_returned (run_release w), hk,
    yields_of_returned hpoll]
  cases hstatus : (c.reap w.clock).status with
  | some code =>
    simp only [yields_bind, yields_look, yields_note]
    exact (hpolled.before ((Session.besides_careful k).note _ _)).mono (List.nil_sublist _)
  | none =>
    have hopen : ((({ w with kept := none } : World τ).called k .poll).setChild k
        (c.reap w.clock)).Unreaped k := ⟨_, child?_setChild hreleased _, hstatus⟩
    exact (careful_stop keeper hopen).mono (fun _ _ => hpolled.after) (fun _ _ => hpolled.after)

/-- A start calls nobody. -/
theorem careful_launch (keeper : Keeper τ) (plan : LaunchPlan) (k : ChildId) :
    (keeper.launch plan).Keeps (Careful k []) := by
  refine (careful_note _ k).bind (fun _ => Keeps.bind ?_ (fun j => (Keeps.look _).bind
    (fun pid => (careful_note _ k).bind (fun _ => Keeps.pure j))))
  refine (Machine.careful_spawn _ _ _ k).rescue (fun e y he => ?_)
  rw [← Option.some.inj he]
  exact Keeps.raise _

theorem careful_takeCharge (j k : ChildId) : (takeCharge j : Act τ Unit).Keeps (Careful k []) := by
  refine (Keeps.look _).bind (fun pid => (Keeps.look _).bind (fun kept => ?_))
  cases kept with
  | some other => exact Keeps.raise _
  | none => exact Keeps.bind (Keeps.change fun w => .of_eq rfl rfl rfl) (fun _ => careful_note _ k)

end Keeper

/-! ## Attempts -/

namespace Attempt

/-- **A part of an attempt is careful** if it does nothing to a child, unless
it fails: then it may have killed the one that it has started. -/
def IsCareful {α : Type} (x : Act τ α) : Prop :=
  ∀ w, x.Yields w (fun _ => Careful w.children.length [] w)
    (fun _ => Careful w.children.length [.kill] w)

theorem IsCareful.of_keeps {α : Type} {x : Act τ α}
    (hx : ∀ k, x.Keeps (Careful k [])) : IsCareful x :=
  fun w => (hx _ w).mono (fun _ _ h => h) (fun _ _ h => h.mono (List.nil_sublist _))

/-- What leaves the children alone may come before. -/
theorem IsCareful.after {α β : Type} {x : Act τ α} {f : α → Act τ β}
    (hx : ∀ k, x.Keeps (Careful k [])) (hl : x.Keeps LeavesChildren)
    (hf : ∀ a, IsCareful (f a)) : IsCareful (x >>= f) := by
  intro w
  refine yields_bind.mpr (((hx _ w).and (hl w)).mono (fun a w₁ ⟨h₁, hl₁⟩ => ?_)
    (fun _ _ ⟨h₁, _⟩ => h₁.mono (List.nil_sublist _)))
  have hfa := hf a w₁
  rw [hl₁.children] at hfa
  exact hfa.mono (fun _ _ => h₁.after) (fun _ _ => h₁.after)

/-- **From the start on**: the child that was started has no status, and is
killed only when it is given up on. -/
theorem careful_start (a : Attempt τ) (plan : LaunchPlan) : IsCareful (a.start plan) := by
  have henter := fun k phase => (Session.besides_careful (τ := τ) k).keeps_enter phase
  refine .after (fun k => henter k _) (keeps_enter .spawning) (fun _ w => ?_)
  have hentered : ∀ {allowed} {w₁ : World τ} (phase : Phase),
      Careful w.children.length allowed w w₁ →
      Careful w.children.length allowed w (entered phase w₁) :=
    fun {_} {w₁} phase h₁ => h₁.before ((yields_enter phase).mp (henter _ phase w₁))
  simp only [yields_bind, yields_onFault, yields_enter, yields_pure, if_true]
  refine ((a.keeper.yields_launch plan w).and
    (a.keeper.careful_launch plan w.children.length w)).mono
    (fun k w₁ hlaunched => ?_) (fun e w₁ hrefused => ?_)
  · obtain ⟨⟨-, c, hs, hstart⟩, hc₁⟩ := hlaunched
    have hopen : (Attempt.entered .waitingHealthy w₁).Unreaped w.children.length := by
      rw [← hstart.place]
      exact ⟨c, hstart.child?, hs⟩
    have hadopt : (a.adopt plan.baseUrl k).Keeps (Careful w.children.length []) := by
      refine ((Session.besides_careful _).keeps_await (Machine.careful_sleep · _) _ _ _).bind
        (fun healthy => ?_)
      split
      · exact Keeper.careful_takeCharge k _
      · exact Keeps.raise _
    refine ((hadopt _).and (a.yields_adopt plan.baseUrl k _)).mono
      (fun _ w₂ hadopted => ?_) (fun e w₂ hunadopted => ?_)
    · exact hentered _ ((hentered _ hc₁).before hadopted.1)
    · obtain ⟨h₂, hl₂⟩ := hunadopted
      rw [hstart.place]
      refine (Keeper.careful_giveUp (hopen.of_leaves hl₂)).mono (fun _ w₃ h₃ => ?_)
        (fun _ w₃ h₃ => ?_)
      · exact hentered _ (((hentered _ hc₁).before h₂).after h₃)
      · exact ((hentered _ hc₁).before h₂).after h₃
  · have hc₁ := hrefused.2
    split
    · exact (hentered _ hc₁).mono (List.nil_sublist _)
    · exact hc₁.mono (List.nil_sublist _)

theorem careful_discoverAndStart (a : Attempt τ) (baseUrl : String) (resources : Option Path) :
    IsCareful (a.discoverAndStart baseUrl resources) := by
  have hidle := fun k => (Session.besides_careful (τ := τ) k)
  refine .after (fun k => (hidle k).keeps_enter _) (keeps_enter _) (fun _ => ?_)
  refine .after (fun k => ((hidle k).keeps_discover a _ _).onFault ((hidle k).keeps_enter _))
    ((a.keeps_discover _ _).onFault (keeps_enter _)) (fun plan => ?_)
  refine .after (fun k => (hidle k).keeps_check _ _) (HealthCheck.keeps_check _ _)
    (fun healthy => ?_)
  split
  · exact .of_keeps fun k => ((hidle k).keeps_note _).bind
      fun _ => ((hidle k).keeps_enter _).bind fun _ => Keeps.pure _
  · exact a.careful_start plan

/-- **An attempt is careful**, whenever it ends. -/
theorem careful_makeReady (a : Attempt τ) (resources : Option Path) :
    IsCareful (a.makeReady resources) := by
  have hidle := fun k => (Session.besides_careful (τ := τ) k)
  refine .after (fun k => Keeps.change fun w => (hidle k).phase w _)
    (Keeps.change fun _ => ⟨rfl, rfl, rfl⟩) (fun _ => ?_)
  refine .after (fun k => (hidle k).keeps_baseUrl a) a.keeps_baseUrl (fun baseUrl => ?_)
  split
  · refine .after (fun k => (hidle k).keeps_check _ _) (HealthCheck.keeps_check _ _)
      (fun healthy => ?_)
    split
    · exact .of_keeps fun k => ((hidle k).keeps_note _).bind
        fun _ => ((hidle k).keeps_enter _).bind fun _ => Keeps.pure _
    · exact a.careful_discoverAndStart baseUrl resources
  · exact .of_keeps fun k => ((hidle k).keeps_enter _).bind fun _ => Keeps.raise _

end Attempt

/-! ## Sessions -/

namespace World

/-- **Careful so far**: all that was seen in a world tells what has become of
its children, each signal and each kill in it has spared them, and none of it
was on the child in charge, which is there. -/
structure Chronicled (w : World τ) : Prop where
  /-- The children are what the journal makes of them. -/
  told : ∀ k, w.child? k = retell w.scripts k none w.timeline
  /-- No signal and no kill has hit a child that had a status. -/
  spares : Spares w.scripts (fun _ => none) w.timeline
  /-- No child has got more than one signal and one kill, the kill last. -/
  forced : ∀ k, (forcedOn k w.timeline).Sublist [.signal Machine.terminate, .kill]
  /-- The child in charge is there. -/
  kept_child : ∀ k, w.kept = some k → ∃ c, w.child? k = some c
  /-- It has got none of them. -/
  kept_spared : ∀ k, w.kept = some k → forcedOn k w.timeline = []

variable {w w' : World τ} {k : ChildId} {allowed : List Call}

/-- Nor has a child that is still to come. -/
theorem Chronicled.forcedOn_of_none (h : Chronicled w) (hk : w.child? k = none) :
    forcedOn k w.timeline = [] := by
  by_contra hf
  have hsome := h.spares.isSome_of_forcedOn hf
  rw [← h.told, hk] at hsome
  cases hsome

/-- **What is careful keeps the chronicle**, if it is allowed to be forced on a
child only where nothing was, and the one in charge is spared. -/
theorem Chronicled.of_careful (h : Chronicled w) (hc : Careful k allowed w w')
    (hsub : allowed.Sublist [.signal Machine.terminate, .kill])
    (hfirst : allowed = [] ∨ forcedOn k w.timeline = [])
    (hkept : ∀ j, w'.kept = some j → (∃ c, w'.child? j = some c) ∧
      forcedOn j w.timeline = [] ∧ (j = k → allowed = [])) : Chronicled w' := by
  obtain ⟨seen, ht, hs, hf⟩ := hc
  have hforced : ∀ j, forcedOn j w'.timeline = forcedOn j w.timeline ++ forcedOn j seen :=
    fun j => by rw [ht.timeline, forcedOn_append]
  refine ⟨fun j => ?_, ?_, fun j => ?_, fun j hj => (hkept j hj).1, fun j hj => ?_⟩
  · rw [ht.child?, h.told, ht.scripts, ht.timeline, retell_append]
  · rw [ht.scripts, ht.timeline]
    rw [show w.child? = _ from funext h.told] at hs
    exact h.spares.append hs
  · have hj := hf j
    rw [hforced]
    by_cases hnil : forcedOn j seen = []
    · rw [hnil, List.append_nil]
      exact h.forced j
    · -- something was forced on it now, so it is the `k`-th one and nothing was before
      have hjk : j = k := by
        by_contra hne
        rw [if_neg hne] at hj
        exact hnil (List.sublist_nil.mp hj)
      rw [if_pos hjk] at hj
      have hold := hfirst.resolve_left (fun hall => hnil (List.sublist_nil.mp (hall ▸ hj)))
      rw [hjk, hold, List.nil_append, ← hjk]
      exact hj.trans hsub
  · obtain ⟨-, hold, hnone⟩ := hkept j hj
    have hnow := hf j
    rw [hforced, hold, List.nil_append]
    split at hnow
    · next hjk => exact List.sublist_nil.mp (hnone hjk ▸ hnow)
    · exact List.sublist_nil.mp hnow

/-- What is careful with nothing allowed keeps it, if the same child is in
charge. -/
theorem Chronicled.of_kept_eq (h : Chronicled w) (hc : Careful k [] w w')
    (hk : w'.kept = w.kept) : Chronicled w' := by
  refine h.of_careful hc (List.nil_sublist _) (Or.inl rfl) (fun j hj => ?_)
  obtain ⟨c, hc₀⟩ := h.kept_child j (hk.symm.trans hj)
  exact ⟨hc.child?_of_some hc₀, h.kept_spared j (hk.symm.trans hj), fun _ => rfl⟩

end World

/-- **An attempt keeps the chronicle**: it kills only a child that it has
started, and then the keeper is not in charge of it. -/
theorem Attempt.chronicled_makeReady {w : World τ} (a : Attempt τ) (resources : Option Path)
    (h : Chronicled w) :
    (a.makeReady resources).Yields w (fun _ => Chronicled) (fun _ => Chronicled) := by
  have hunborn : w.child? w.children.length = none := by
    rw [World.child?, List.getElem?_eq_none (Nat.le_refl _)]
    rfl
  refine ((a.careful_makeReady resources w).and (a.settles_makeReady resources w)).mono
    (fun ready w' hready => ?_) (fun e w' hfailed => ?_)
  · obtain ⟨hc, ho⟩ := hready
    obtain ⟨url, spawned⟩ := ready
    cases spawned with
    | false => exact h.of_kept_eq hc (LeavesChildren.kept ho)
    | true =>
      obtain ⟨-, k, c, hk, hstart⟩ := ho
      refine h.of_careful hc (List.nil_sublist _) (Or.inl rfl) (fun j hj => ?_)
      obtain rfl := Option.some.inj (hk.symm.trans hj)
      -- the child that was adopted was not there before
      refine ⟨⟨c, hstart.child?⟩, h.forcedOn_of_none ?_, fun _ => rfl⟩
      rw [hstart.place, hunborn]
  · obtain ⟨hc, hkept, -⟩ := hfailed
    refine h.of_careful hc (List.sublist_cons_self _ _)
      (Or.inr (h.forcedOn_of_none hunborn)) (fun j hj => ?_)
    obtain ⟨c, hc₀⟩ := h.kept_child j (hkept.symm.trans hj)
    refine ⟨hc.child?_of_some hc₀, h.kept_spared j (hkept.symm.trans hj), ?_⟩
    -- the child in charge was there before
    rintro rfl
    rw [hunborn] at hc₀
    cases hc₀

namespace Keeper

variable {w : World τ}

/-- **A shutdown keeps the chronicle**: nothing was forced on the child in
charge before, and nobody is in charge of it afterwards. -/
theorem chronicled_shutdown (keeper : Keeper τ) (h : Chronicled w) :
    keeper.shutdown.Yields w (fun _ => Chronicled) (fun _ => Chronicled) := by
  cases hk : w.kept with
  | none => exact (yields_of_returned (run_shutdown_of_free keeper hk)).mpr h
  | some k =>
    obtain ⟨c, hc⟩ := h.kept_child k hk
    -- however it ends, nobody is in charge of the child any more
    have hchronicled : ∀ {w' : World τ}, w'.kept = none →
        Careful k [.signal Machine.terminate, .kill] w w' → Chronicled w' := by
      intro w' hfree hcareful
      refine h.of_careful hcareful (List.Sublist.refl _) (Or.inr (h.kept_spared k hk))
        (fun j hj => ?_)
      rw [hfree] at hj
      cases hj
    exact ((keeper.careful_shutdown hk hc).and (keeper.yields_shutdown hk hc)).mono
      (fun _ _ ⟨hcareful, hfree, _⟩ => hchronicled hfree hcareful)
      (fun _ _ ⟨hcareful, hfree, _⟩ => hchronicled hfree hcareful)

theorem chronicled_isAlive (h : Chronicled w) :
    (isAlive : Act τ Bool).Yields w (fun _ => Chronicled) (fun _ => Chronicled) := by
  refine yields_bind.mpr ((yields_look _).mpr ?_)
  cases hk : w.kept with
  | none => exact (yields_pure _).mpr h
  | some k =>
    obtain ⟨c, hc⟩ := h.kept_child k hk
    have hpoll := Machine.run_poll hc
    refine yields_bind.mpr ((yields_of_returned hpoll).mpr ((yields_pure _).mpr ?_))
    exact h.of_kept_eq ((Machine.careful_poll k k).of_run hpoll) rfl

end Keeper

namespace Session

/-- **An ordinary step keeps the chronicle**, however it ends. -/
theorem chronicled_act (a : Attempt τ) {t : Step τ} (ht : t.isOrdinary = true) {w : World τ}
    (h : Chronicled w) : (act a t).Yields w (fun _ => Chronicled) (fun _ => Chronicled) := by
  by_cases hready : ∃ resources, t = .makeReady resources
  · obtain ⟨resources, rfl⟩ := hready
    exact yields_map.mpr (a.chronicled_makeReady resources h)
  by_cases hshut : t = .shutdown
  · subst hshut
    refine yields_bind.mpr ((a.keeper.chronicled_shutdown h).mono (fun _ w' h' => ?_)
      (fun _ _ h' => h'))
    exact (yields_pure _).mpr h'
  by_cases halive : t = .isAlive
  · subst halive
    exact yields_map.mpr (Keeper.chronicled_isAlive h)
  -- the other steps have nothing to do with the children
  have hcareful := (besides_careful 0).keeps_act a ht (not_exists.mp hready) hshut halive w
  have hleaves := besides_leaves.keeps_act a ht (not_exists.mp hready) hshut halive w
  exact (hcareful.and hleaves).mono (fun _ _ ⟨hc, hl⟩ => h.of_kept_eq hc hl.kept)
    (fun _ _ ⟨hc, hl⟩ => h.of_kept_eq hc hl.kept)

variable {s : Session τ} {ts : List (Step τ)} {outs : List (Ending τ StepResult × Session τ)}

/-- **No signal goes to a child that is gone.** In every run of ordinary steps
from a fresh session, whatever interrupts them, the children are at any moment
what the journal makes of them; each signal and each kill in it found a child
that was there and had no status; and no child got more than one signal, which
is the one to terminate, and after it one kill. -/
theorem run_spares_reaped_children (hfree : s.world.kept = none) (hnew : s.world.children = [])
    (hblank : s.world.journal = []) (hts : ∀ t ∈ ts, t.isOrdinary = true)
    (hrun : s.run ts = some outs) :
    ∀ w ∈ s.worlds outs,
      (∀ k, w.child? k = retell w.scripts k none w.timeline) ∧
      Spares w.scripts (fun _ => none) w.timeline ∧
      ∀ k, (forcedOn k w.timeline).Sublist [.signal Machine.terminate, .kill] := by
  have hseen : s.world.timeline = [] := by rw [timeline, hblank, List.reverse_nil]
  have hstart : Chronicled s.world := by
    refine ⟨fun k => ?_, ?_, fun k => ?_, fun k hk => ?_, fun k hk => ?_⟩
    · rw [hseen, World.child?, hnew]
      rfl
    · rw [hseen]
      exact spares_of_not_dealing fun _ he => absurd he List.not_mem_nil
    · rw [hseen]
      exact List.nil_sublist _
    · rw [hfree] at hk
      cases hk
    · rw [hfree] at hk
      cases hk
  have hall := holds_throughout (fun t ht s s' ending hstep hw =>
    (chronicled_act s.attempt (hts t ht) hw).of_run (run_act_of_step hstep)) hrun hstart
  exact fun w hw => ⟨(hall w hw).told, (hall w hw).spares, (hall w hw).forced⟩

/-- An attempt starts a child and adopts it, and a shutdown that has asked it to stop
is interrupted: one signal was sent, and nothing else was forced on the child, which
has no status. -/
theorem run_spares_reaped_children_of_interruption :
    let w : World Rat := { withRuntime with
      scripts := [.plain]
      probes := [503, 503, 200].map fun code => ⟨none, .status code⟩
      interruptions := [(1, .fault .interrupted)] }
    let s : Session Rat := ⟨.usual .linux (some "http://127.0.0.1:4567"), w⟩
    let ts : List (Step Rat) := [.makeReady none, .shutdown]
    s.world.kept = none ∧ s.world.children = [] ∧ s.world.journal = [] ∧
      (∀ t ∈ ts, t.isOrdinary = true) ∧
      ∃ outs, s.run ts = some outs ∧
        (s.worlds outs).map World.dealings =
          [[], [.spawn runtimeCommand "/app" none (some 0)],
            [.spawn runtimeCommand "/app" none (some 0), .call 0 100 .poll,
              .call 0 100 (.signal Machine.terminate), .call 0 100 .poll]] ∧
        (s.worlds outs).map (fun w => (w.kept, (w.child? 0).map Child.status)) =
          [(none, none), (some 0, some none), (none, some none)] ∧
        ∀ w ∈ s.worlds outs,
          (∀ k, w.child? k = retell w.scripts k none w.timeline) ∧
          Spares w.scripts (fun _ => none) w.timeline ∧
          ∀ k, (forcedOn k w.timeline).Sublist [.signal Machine.terminate, .kill] := by
  intro w s ts
  have hts : ∀ t ∈ ts, t.isOrdinary = true := by
    intro t ht
    rcases List.mem_pair.mp ht with rfl | rfl
    · rfl
    · rfl
  have hseen : (s.run ts).map (fun outs => ((s.worlds outs).map World.dealings,
      (s.worlds outs).map fun w => (w.kept, (w.child? 0).map Child.status)))
      = some ([[], [.spawn runtimeCommand "/app" none (some 0)],
          [.spawn runtimeCommand "/app" none (some 0), .call 0 100 .poll,
            .call 0 100 (.signal Machine.terminate), .call 0 100 .poll]],
        [(none, none), (some 0, some none), (none, some none)]) := by
    simp only [ts, run, step, act, Attempt.makeReady, Attempt.discoverAndStart, Attempt.start,
      Attempt.adopt, HealthCheck.await, Keeper.shutdown, Keeper.stop, Keeper.awaitExit,
      loop_eq_unrolled 1]
    decide +kernel
  obtain ⟨outs, hrun, hseen⟩ := Option.map_eq_some_iff.mp hseen
  obtain ⟨hdealings, hchildren⟩ := Prod.mk.inj hseen
  exact ⟨rfl, rfl, rfl, hts, outs, hrun, hdealings, hchildren,
    run_spares_reaped_children rfl rfl rfl hts hrun⟩

end Session

end LocalServer
