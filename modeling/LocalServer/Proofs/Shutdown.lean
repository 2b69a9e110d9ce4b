import LocalServer.Proofs.Undisturbed
import LocalServer.Proofs.Waiting

/-!
# Shutting down

What the keeper does with a child that it stops is known event by event, and
each event with its time (`Keeper.Course`). The child is looked at once; if
it has exited, that is all. Otherwise it is asked to stop, where the platform
can ask, and then looked at again and again with pauses in between. Either a
look shows that it has exited, or the time is up, and then it is killed and
waited for.

The looks are rounds of a loop, and the invariant of the loop says what is
seen of the rounds so far and that the child has exited in none of them
(`Keeper.Waited`). All of this holds on any scale of seconds; that there is
an end to it is said of the exact scale.
-/

namespace LocalServer

open Act World

variable {τ : Type}

/-- Whether an event is a notice. -/
def Event.isNotice : Event τ → Bool
  | .notice _ => true
  | _ => false

namespace World

/-- **What was done and when**: all that was seen, less the notices. -/
def doings (w : World τ) : List (τ × Event τ) :=
  w.timeline.filter fun e => !e.2.isNotice

/-- An event is added to what was done, unless it is a notice. -/
theorem doings_record (w : World τ) (e : Event τ) :
    (w.record e).doings = w.doings ++ if e.isNotice = true then [] else [(w.clock, e)] := by
  unfold doings
  rw [timeline_record, List.filter_append, List.filter_cons, List.filter_nil]
  cases e.isNotice <;> rfl

@[simp] theorem doings_note (w : World τ) (n : Notice τ) :
    (w.record (.notice n)).doings = w.doings := by
  rw [doings_record]
  exact List.append_nil _

theorem doings_called (w : World τ) (k : ChildId) (call : Call) :
    (w.called k call).doings = w.doings ++ [(w.clock, .call k (w.pid k) call)] :=
  doings_record w _

end World

variable [Seconds τ]

namespace Child

/-- **Whether a look at a time shows** that a child has exited. -/
def hasExited (c : Child τ) (now : τ) : Bool :=
  (c.reap now).status.isSome

/-- A look at a child that has not exited finds it as it was. -/
theorem reap_of_not_hasExited {c : Child τ} {now : τ} (h : c.hasExited now = false) :
    c.reap now = c := by
  unfold hasExited reap at h
  unfold reap
  split at h
  · split at h
    · next hlt => rw [if_pos hlt]
    · cases h
  · rfl

theorem hasExited_eq_false_iff {c : Child τ} {now : τ} :
    c.hasExited now = false ↔ (c.reap now).status = none := by
  rw [hasExited, Option.isSome_eq_false_iff, Option.isNone_iff_eq_none]

end Child

namespace Keeper

/-! ## What is seen of a wait -/

/-- **The time of a look** at a child that is looked at again and again. -/
def moment (start interval : τ) : Nat → τ
  | 0 => start
  | n + 1 => moment start interval n + interval

/-- **What is seen of the first rounds** of a wait for a child: in each of
them a look at the child, and then a pause. -/
def rounds (k : ChildId) (pid : Int) (start interval : τ) : Nat → List (τ × Event τ)
  | 0 => []
  | n + 1 => rounds k pid start interval n ++
      [(moment start interval n, .call k pid .poll), (moment start interval n, .sleep interval)]

/-- **The time is not up** before a round, and a look in it does not show
that the child has exited. -/
def GoesOn (c : Child τ) (timeout start interval : τ) (n : Nat) : Prop :=
  moment start interval n - start < timeout ∧ c.hasExited (moment start interval n) = false

/-- **The invariant of a wait for a child**: `n` rounds have been made since
it began, and in none of them the wait was over. -/
structure Waited (k : ChildId) (c : Child τ) (timeout interval : τ) (w w' : World τ) (n : Nat) :
    Prop where
  /-- The next look is to come. -/
  clock : w'.clock = moment w.clock interval n
  /-- The keeper is in charge of the same child. -/
  kept : w'.kept = w.kept
  /-- The children are what they were, for a look at a child that has not
  exited finds it as it was. -/
  children : w'.children = w.children
  /-- What was done. -/
  doings : w'.doings = w.doings ++ rounds k c.pid w.clock interval n
  /-- Each of the rounds was followed by another one. -/
  goesOn : ∀ i < n, GoesOn c timeout w.clock interval i

/-- **How a wait for a child ends** after some rounds: with a look that shows
that it has exited, or without one, because the time is up. -/
def AwaitEnds (k : ChildId) (c : Child τ) (timeout interval : τ) (w : World τ) :
    Bool → World τ → Prop
  | true, w' => ∃ n w₁, Waited k c timeout interval w w₁ n ∧
      moment w.clock interval n - w.clock < timeout ∧
      c.hasExited (moment w.clock interval n) = true ∧
      w' = (w₁.called k .poll).setChild k (c.reap w₁.clock)
  | false, w' => ∃ n, Waited k c timeout interval w w' n ∧
      ¬ moment w.clock interval n - w.clock < timeout

variable {w w₁ : World τ} {k : ChildId} {c : Child τ} {timeout interval : τ} {n : Nat}

theorem Waited.child? (h : Waited k c timeout interval w w₁ n) (hc : w.child? k = some c) :
    w₁.child? k = some c := by
  rw [World.child?, h.children]
  exact hc

/-- **One more round** is added by a look at a child that has not exited, and
a pause. -/
theorem Waited.succ (h : Waited k c timeout interval w w₁ n) (hc : w.child? k = some c)
    (hgo : GoesOn c timeout w.clock interval n) :
    Waited k c timeout interval w
      (Machine.slept interval ((w₁.called k .poll).setChild k (c.reap w₁.clock))) (n + 1) := by
  have hreap : c.reap w₁.clock = c := Child.reap_of_not_hasExited (by rw [h.clock]; exact hgo.2)
  have hcalled : (w₁.called k .poll).child? k = some c := h.child? hc
  rw [hreap, setChild_of_child? hcalled]
  refine ⟨?_, h.kept, h.children, ?_, fun i hi => ?_⟩
  · show w₁.clock + interval = moment w.clock interval n + interval
    rw [h.clock]
  · show ((w₁.called k .poll).record (.sleep interval)).doings = _
    rw [doings_record, doings_called, h.doings, pid_of_child? (h.child? hc), rounds,
      List.append_assoc, List.append_assoc]
    show w.doings ++ (rounds k c.pid w.clock interval n ++
      ([(w₁.clock, Event.call k c.pid .poll)] ++ [(w₁.clock, Event.sleep interval)])) = _
    rw [h.clock]
    rfl
  · rcases Nat.lt_succ_iff_lt_or_eq.mp hi with hlt | rfl
    · exact h.goesOn i hlt
    · exact hgo

/-! ## The wait -/

/-- **A round of the wait** keeps the invariant, or ends the wait. -/
theorem undisturbed_awaitRound (hc : w.child? k = some c)
    (h : Waited k c timeout interval w w₁ n) :
    (awaitRound k timeout interval w.clock).Undisturbed w₁ (fun o w' =>
      o.elim (∃ m, Waited k c timeout interval w w' m)
        (fun exited => AwaitEnds k c timeout interval w exited w')) := by
  refine .of_returned_bind (run_look _ w₁) (refl_of Passes w₁) ?_
  by_cases hlt : w₁.clock - w.clock < timeout
  · rw [if_pos hlt]
    refine .of_returned_bind (Machine.run_poll (h.child? hc)) (.of_eq rfl rfl) ?_
    rw [h.clock] at hlt
    cases hx : c.hasExited w₁.clock with
    | true =>
      rw [if_pos (show (c.reap w₁.clock).status.isSome = true from hx)]
      refine .of_returned (run_pure _ _) (refl_of Passes _) ⟨n, w₁, h, hlt, ?_, rfl⟩
      rw [← h.clock]
      exact hx
    | false =>
      rw [if_neg (by rw [← Child.hasExited, hx]; exact Bool.false_ne_true)]
      refine (Machine.undisturbed_sleep interval _).bind (fun _ => Keeps.pure _) (fun _ w₂ h₂ => ?_)
      refine .of_returned (run_pure _ w₂) (refl_of Passes w₂) ⟨n + 1, ?_⟩
      rw [h₂]
      exact h.succ hc ⟨hlt, by rw [← h.clock]; exact hx⟩
  · rw [if_neg hlt]
    rw [h.clock] at hlt
    exact .of_returned (run_pure _ w₁) (refl_of Passes w₁) ⟨n, h, hlt⟩

/-- **The wait for a child**, if no pause is interrupted. -/
theorem undisturbed_awaitExit (timeout interval : τ) (hc : w.child? k = some c) :
    (awaitExit k timeout interval).Undisturbed w (AwaitEnds k c timeout interval w) := by
  refine .of_returned_bind (run_look _ w) (refl_of Passes w) ?_
  refine .loop (fun w₁ => ∃ n, Waited k c timeout interval w w₁ n) ⟨0, ?_⟩
    (keeps_awaitRound (Machine.passes_poll k) (Machine.passes_sleep interval) timeout _)
    (fun w₁ ⟨n, h⟩ => undisturbed_awaitRound hc h)
  exact ⟨rfl, rfl, rfl, (List.append_nil _).symm, fun i hi => absurd hi (Nat.not_lt_zero i)⟩

/-! ## What is seen of a shutdown -/

/-- The child after the keeper has asked it to stop, if the platform can
ask. -/
def requested (platform : Platform) (c : Child τ) (now : τ) : Child τ :=
  if platform.canAskToStop = true then c.asked now else c

/-- What is seen when a child is asked to stop: one signal, or nothing if the
platform cannot ask. -/
def request (platform : Platform) (k : ChildId) (pid : Int) (now : τ) : List (τ × Event τ) :=
  if platform.canAskToStop = true then [(now, .call k pid (.signal Machine.terminate))] else []

/-- **What is seen of a child that has been asked to stop**: rounds in which
it goes on, and then the end. -/
inductive StopCourse (keeper : Keeper τ) (k : ChildId) (c : Child τ) (start : τ) :
    List (τ × Event τ) → Prop
  /-- A look before the deadline shows that it has exited. It is the first
  look that does, and the child is not killed. -/
  | exited (n : Nat) (goesOn : ∀ i < n, GoesOn c keeper.shutdownTimeout start keeper.pollInterval i)
      (inTime : moment start keeper.pollInterval n - start < keeper.shutdownTimeout)
      (seen : c.hasExited (moment start keeper.pollInterval n) = true) :
      StopCourse keeper k c start (rounds k c.pid start keeper.pollInterval n ++
        [(moment start keeper.pollInterval n, .call k c.pid .poll)])
  /-- No look before the deadline shows it. When the deadline has passed, the
  child is killed and waited for. -/
  | killed (n : Nat) (goesOn : ∀ i < n, GoesOn c keeper.shutdownTimeout start keeper.pollInterval i)
      (late : ¬ moment start keeper.pollInterval n - start < keeper.shutdownTimeout) :
      StopCourse keeper k c start (rounds k c.pid start keeper.pollInterval n ++
        [(moment start keeper.pollInterval n, .call k c.pid .kill),
          (moment start keeper.pollInterval n, .call k c.pid .wait)])

/-- **What is seen of a shutdown.** -/
inductive Course (keeper : Keeper τ) (k : ChildId) (c : Child τ) (start : τ) :
    List (τ × Event τ) → Prop
  /-- The child has exited already: it is looked at, and that is all. -/
  | exitedBefore (gone : c.hasExited start = true) :
      Course keeper k c start [(start, .call k c.pid .poll)]
  /-- The child is running: it is asked to stop, and its end is seen to. -/
  | stopped (running : c.hasExited start = false) {seen : List (τ × Event τ)}
      (stop : StopCourse keeper k (requested keeper.platform c start) start seen) :
      Course keeper k c start ((start, .call k c.pid .poll) ::
        (request keeper.platform k c.pid start ++ seen))

/-- **The child has been stopped** between two worlds, and `seen` is what was
done. -/
structure Stops (k : ChildId) (w w' : World τ) (seen : List (τ × Event τ)) : Prop where
  /-- The child has a status, and no other child has changed. -/
  reaped : ∃ c, c.status.isSome = true ∧ w'.children = w.children.set k (some c)
  /-- What was done. -/
  doings : w'.doings = w.doings ++ seen

/-! ## Stopping -/

/-- The world after a child was asked to stop. -/
structure Requested (platform : Platform) (k : ChildId) (c : Child τ) (w w' : World τ) :
    Prop where
  passes : Passes w w'
  clock : w'.clock = w.clock
  kept : w'.kept = w.kept
  children : w'.children = w.children.set k (some (requested platform c w.clock))
  doings : w'.doings = w.doings ++ request platform k c.pid w.clock

omit [Seconds τ] in
/-- A child that was changed in a list of children is there. -/
theorem child?_of_children_eq_set {c' : Child τ} (hc : w.child? k = some c)
    (h : w₁.children = w.children.set k (some c')) : w₁.child? k = some c' := by
  rw [World.child?, h]
  exact child?_setChild hc c'

/-- A notice may be given before a child is asked to stop. -/
theorem Requested.of_note {platform : Platform} {m : Notice τ}
    (h : Requested platform k c (w.record (.notice m)) w₁) : Requested platform k c w w₁ where
  passes := ⟨h.passes.interruptions, h.passes.pauses⟩
  clock := h.clock
  kept := h.kept
  children := h.children
  doings := by
    rw [h.doings, doings_note]
    rfl

/-- **To ask a child to stop** is always possible: that there is no process
any more to be asked is no obstacle. -/
theorem run_askToStop (platform : Platform) (hc : w.child? k = some c) :
    ∃ w', (askToStop platform k).run w = some (.returned (), w') ∧
      Requested platform k c w w' := by
  unfold askToStop
  rw [run_bind_of_returned (run_look _ w)]
  by_cases hp : platform.canAskToStop = true
  · rw [if_pos hp]
    obtain ⟨ending, hending, hask⟩ := Machine.run_ask hc
    have hdone : ∀ n : Notice τ, Requested platform k c w
        (((w.called k (.signal Machine.terminate)).setChild k (c.asked w.clock)).record
          (.notice n)) := by
      refine fun n => ⟨.of_eq rfl rfl, rfl, rfl, ?_, ?_⟩
      · rw [requested, if_pos hp]
        rfl
      · rw [request, if_pos hp, doings_note, ← pid_of_child? hc]
        exact doings_called w k _
    rcases hending with rfl | rfl
    · refine ⟨_, run_rescue_of_returned ?_ _, hdone (.askedToStop (w.pid k))⟩
      rw [run_bind_of_returned hask, run_note]
    · refine ⟨_, ?_, hdone (.goneBeforeAsking (w.pid k))⟩
      rw [run_rescue_of_raised (run_bind_of_raised hask _) (if_pos rfl), run_note]
  · rw [if_neg hp]
    refine ⟨_, run_note _ w, .of_eq rfl rfl, rfl, rfl, ?_, ?_⟩
    · rw [requested, if_neg hp]
      exact (congrArg World.children (setChild_of_child? hc)).symm
    · rw [request, if_neg hp, List.append_nil]
      exact doings_note w _

theorem passes_killAndWait (k : ChildId) : (killAndWait k : Act τ Unit).Keeps Passes := by
  refine Keeps.bind ((Machine.passes_kill k).rescue (fun e y he => ?_))
    (fun _ => Machine.passes_wait k)
  split at he
  · rw [← Option.some.inj he]
    exact Keeps.pure ()
  · cases he

omit [Seconds τ] in
/-- The two calls of killing a child for good. -/
theorem doings_afterKill (w : World τ) (k : ChildId) (pid : Int) (c : Child τ) (now : τ) :
    (afterKill w k pid c now).doings
      = w.doings ++ [(w.clock, .call k pid .kill), (w.clock, .call k pid .wait)] := by
  show ((w.record (.call k pid .kill)).record (.call k pid .wait)).doings = _
  rw [doings_record, doings_record, List.append_assoc]
  rfl

/-- What was done from the request on, and after it. -/
theorem Requested.stops {platform : Platform} {w₂ w' : World τ} {c' : Child τ}
    {last : List (τ × Event τ)} (h : Requested platform k c w w₁)
    (hw : Waited k (requested platform c w.clock) timeout interval w₁ w₂ n)
    (hs : c'.status.isSome = true) (hchildren : w'.children = w₂.children.set k (some c'))
    (hdoings : w'.doings = w₂.doings ++ last) :
    Stops k w w' (request platform k c.pid w.clock ++
      (rounds k (requested platform c w.clock).pid w.clock interval n ++ last)) where
  reaped := ⟨c', hs, by rw [hchildren, hw.children, h.children, List.set_set]⟩
  doings := by
    rw [hdoings, hw.doings, h.doings, h.clock, List.append_assoc, List.append_assoc]

/-- **Stopping a child**, if no pause is interrupted. -/
theorem undisturbed_stop (keeper : Keeper τ) (hc : w.child? k = some c) :
    (keeper.stop k).Undisturbed w (fun _ w' => w'.kept = w.kept ∧ ∃ seen,
      StopCourse keeper k (requested keeper.platform c w.clock) w.clock seen ∧
      Stops k w w' (request keeper.platform k c.pid w.clock ++ seen)) := by
  refine .of_returned_bind (run_look _ w) (refl_of Passes w) ?_
  refine .of_returned_bind (run_note _ w) (.of_eq rfl rfl) ?_
  obtain ⟨w₁, hrun, hnoted⟩ := run_askToStop keeper.platform
    (show (w.record (.notice (.stopping (w.pid k)))).child? k = some c from hc)
  refine .of_returned_bind hrun hnoted.passes ?_
  have hreq : Requested keeper.platform k c w w₁ := hnoted.of_note
  have hc₁ : w₁.child? k = some _ := child?_of_children_eq_set hc hreq.children
  refine (undisturbed_awaitExit _ _ hc₁).bind (fun exited => ?_) (fun exited w₂ h₂ => ?_)
  · split
    · exact passes_note _
    · exact (passes_note _).bind fun _ => (passes_killAndWait k).bind fun _ => passes_note _
  · rw [AwaitEnds.eq_def] at h₂
    cases exited with
    | true =>
      -- a look in time has shown that the child has exited
      obtain ⟨n, w₃, hw, hlt, hx, rfl⟩ := h₂
      have hclock : w₃.clock = moment w.clock keeper.pollInterval n := by
        rw [hw.clock, hreq.clock]
      rw [← hw.clock] at hlt hx
      rw [hreq.clock] at hlt
      refine .of_returned (run_note _ _) (.of_eq rfl rfl) ⟨hw.kept.trans hreq.kept, _,
        .exited n (hreq.clock ▸ hw.goesOn) (hclock ▸ hlt) (hclock ▸ hx),
        hreq.stops hw hx rfl ?_⟩
      rw [doings_note, ← hclock, ← pid_of_child? (hw.child? hc₁)]
      exact doings_called w₃ k .poll
    | false =>
      -- the time is up, and the child is where it was
      obtain ⟨n, hw, hlate⟩ := h₂
      have hclock : w₂.clock = moment w.clock keeper.pollInterval n := by
        rw [hw.clock, hreq.clock]
      rw [hreq.clock] at hlate
      refine .of_returned_bind (run_note _ w₂) (.of_eq rfl rfl) ?_
      obtain ⟨c', now, hs, hkill⟩ := run_killAndWait
        (show (w₂.record (.notice _)).child? k = some _ from hw.child? hc₁)
      refine .of_returned_bind hkill (.of_eq rfl rfl) ?_
      refine .of_returned (run_note _ _) (.of_eq rfl rfl) ⟨hw.kept.trans hreq.kept, _,
        .killed n (hreq.clock ▸ hw.goesOn) hlate, hreq.stops hw hs rfl ?_⟩
      rw [doings_note, doings_afterKill, doings_note, ← hclock]
      rfl

/-! ## Shutting down -/

omit [Seconds τ] in
theorem run_release (w : World τ) :
    (release : Act τ (Option ChildId)).run w = some (.returned w.kept, { w with kept := none }) :=
  rfl

/-- A shutdown that has nothing to shut down does nothing. -/
theorem run_shutdown_of_free (keeper : Keeper τ) (hk : w.kept = none) :
    keeper.shutdown.run w = some (.returned (), w) := by
  have hw : { w with kept := none } = w := by rw [← hk]
  rw [shutdown, run_bind_of_returned (run_release w), hw, hk]
  rfl

/-- The world in which the keeper has let go of a child and looked at it. -/
def looked (w : World τ) (k : ChildId) : World τ :=
  ({ w with kept := none } : World τ).called k .poll

omit [Seconds τ] in
theorem doings_looked (hc : w.child? k = some c) :
    (looked w k).doings = w.doings ++ [(w.clock, .call k c.pid .poll)] := by
  have hfree : ({ w with kept := none } : World τ).child? k = some c := hc
  rw [looked, doings_called, pid_of_child? hfree]
  rfl

/-- **A child that has exited** when a shutdown begins is let go of. -/
theorem run_shutdown_of_exited (keeper : Keeper τ) (hk : w.kept = some k)
    (hc : w.child? k = some c) {code : Int} (hx : (c.reap w.clock).status = some code) :
    keeper.shutdown.run w = some (.returned (),
      ((looked w k).setChild k (c.reap w.clock)).record (.notice (.alreadyExited c.pid code))) := by
  have hfree : ({ w with kept := none } : World τ).child? k = some c := hc
  have hlooked : (looked w k).child? k = some c := hc
  have hpid : ((looked w k).setChild k (c.reap w.clock)).pid k = c.pid := by
    rw [pid_of_child? (child?_setChild hlooked _), Child.pid_reap]
  rw [shutdown, run_bind_of_returned (run_release w), hk]
  dsimp only
  rw [run_bind_of_returned (Machine.run_poll hfree), ← looked, hx]
  dsimp only
  rw [run_bind_of_returned (run_look _ _), hpid, run_note]

/-- **A child that is running** when a shutdown begins is stopped. -/
theorem run_shutdown_of_running (keeper : Keeper τ) (hk : w.kept = some k)
    (hc : w.child? k = some c) (hx : c.hasExited w.clock = false) :
    keeper.shutdown.run w = (keeper.stop k).run (looked w k) := by
  have hfree : ({ w with kept := none } : World τ).child? k = some c := hc
  have hlooked : (looked w k).child? k = some c := hc
  have hreap : c.reap ({ w with kept := none } : World τ).clock = c :=
    Child.reap_of_not_hasExited hx
  rw [shutdown, run_bind_of_returned (run_release w), hk]
  dsimp only
  rw [run_bind_of_returned (Machine.run_poll hfree), Child.hasExited_eq_false_iff.mp hx, hreap,
    ← looked, setChild_of_child? hlooked]

/-- **Shutting down**, if no pause is interrupted. -/
theorem undisturbed_shutdown (keeper : Keeper τ) (hk : w.kept = some k)
    (hc : w.child? k = some c) :
    keeper.shutdown.Undisturbed w (fun _ w' => w'.kept = none ∧
      ∃ seen, Course keeper k c w.clock seen ∧ Stops k w w' seen) := by
  cases hstatus : (c.reap w.clock).status with
  | some code =>
    have hx : c.hasExited w.clock = true := by rw [Child.hasExited, hstatus, Option.isSome_some]
    refine .of_returned (run_shutdown_of_exited keeper hk hc hstatus) (.of_eq rfl rfl)
      ⟨rfl, _, .exitedBefore hx, ⟨_, hx, rfl⟩, ?_⟩
    rw [doings_note]
    exact doings_looked hc
  | none =>
    have hx : c.hasExited w.clock = false := Child.hasExited_eq_false_iff.mpr hstatus
    have hlooked : (looked w k).child? k = some c := hc
    refine .of_run_eq (run_shutdown_of_running keeper hk hc hx) (.of_eq rfl rfl)
      ((undisturbed_stop keeper hlooked).mono fun _ w' h => ?_)
    obtain ⟨hk', seen, hcourse, hstops⟩ := h
    refine ⟨hk', _, .stopped hx hcourse, hstops.reaped, ?_⟩
    rw [hstops.doings, doings_looked hc, List.append_assoc]
    rfl

/-! ## Signals and kills -/

/-- In the rounds of a wait there are looks and pauses, and nothing else. -/
theorem mem_rounds {pid : Int} {start : τ} {e : τ × Event τ}
    (h : e ∈ rounds k pid start interval n) :
    e.2 = .call k pid .poll ∨ e.2 = .sleep interval := by
  induction n with
  | zero => cases h
  | succ n ih =>
    rw [rounds, List.mem_append] at h
    rcases h with h | h
    · exact ih h
    · rcases List.mem_pair.mp h with rfl | rfl
      · exact Or.inl rfl
      · exact Or.inr rfl

variable {keeper : Keeper τ} {start t : τ} {pid : Int} {seen : List (τ × Event τ)}

/-- After a child was asked to stop, there are looks and pauses; there may
also be a kill and a wait, but only when the deadline has passed. -/
theorem StopCourse.of_mem {e : τ × Event τ} (h : StopCourse keeper k c start seen)
    (he : e ∈ seen) :
    e.2 = .call k c.pid .poll ∨ e.2 = .sleep keeper.pollInterval ∨
      (e.2 = .call k c.pid .kill ∨ e.2 = .call k c.pid .wait) ∧
        ¬ e.1 - start < keeper.shutdownTimeout := by
  cases h with
  | exited n goesOn inTime seen =>
    rcases List.mem_append.mp he with hr | hl
    · exact (mem_rounds hr).imp_right Or.inl
    · cases List.mem_singleton.mp hl
      exact Or.inl rfl
  | killed n goesOn late =>
    rcases List.mem_append.mp he with hr | hl
    · exact (mem_rounds hr).imp_right Or.inl
    · rcases List.mem_pair.mp hl with rfl | rfl
      · exact Or.inr (Or.inr ⟨Or.inl rfl, late⟩)
      · exact Or.inr (Or.inr ⟨Or.inr rfl, late⟩)

/-- **A child is asked to stop at once**, if it is asked. -/
theorem Course.eq_of_signal {number : Nat} (h : Course keeper k c start seen)
    (ht : (t, .call k pid (.signal number)) ∈ seen) : t = start := by
  cases h with
  | exitedBefore gone => cases List.mem_singleton.mp ht
  | stopped running stop =>
    rcases List.mem_cons.mp ht with hp | ht
    · cases hp
    · rcases List.mem_append.mp ht with hr | hs
      · unfold request at hr
        split at hr
        · cases List.mem_singleton.mp hr
          rfl
        · cases hr
      · rcases stop.of_mem hs with h | h | ⟨h | h, -⟩ <;> cases h

/-- **A child is not killed before the deadline.** -/
theorem Course.not_lt_of_kill (h : Course keeper k c start seen)
    (ht : (t, .call k pid .kill) ∈ seen) : ¬ t - start < keeper.shutdownTimeout := by
  cases h with
  | exitedBefore gone => cases List.mem_singleton.mp ht
  | stopped running stop =>
    rcases List.mem_cons.mp ht with hp | ht
    · cases hp
    · rcases List.mem_append.mp ht with hr | hs
      · unfold request at hr
        split at hr
        · cases List.mem_singleton.mp hr
        · cases hr
      · rcases stop.of_mem hs with h | h | ⟨-, hlate⟩
        · cases h
        · cases h
        · exact hlate

end Keeper

namespace Machine

/-- A look at a child takes no time and no pause. -/
theorem ticks_poll (k : ChildId) : (poll k : Act Rat _).Keeps Ticks :=
  keeps_poll (fun _ _ _ => ⟨le_rfl, rfl, rfl⟩) (fun _ _ _ => ⟨le_rfl, rfl, rfl⟩) k

end Machine

namespace Keeper

/-! ## A shutdown ends -/

/-- **The wait for a child ends** if its pauses are longer than nothing. -/
theorem ends_awaitExit (k : ChildId) (timeout : Rat) {interval : Rat} (hp : 0 < interval)
    {w : World Rat} : (awaitExit k timeout interval).Ends w := by
  refine ends_bind.mpr ⟨ends_look _, (yields_look _).mpr ?_⟩
  refine Ends.loop (fun _ => True) (waitLeft w.clock timeout interval) trivial (fun w₁ _ => ?_)
    (fun w₁ _ => ?_)
  · -- a round ends
    refine (ends_look _).bind (fun now _ => ?_)
    split
    · refine (Machine.ends_poll k).bind (fun status _ => ?_)
      split
      · exact ends_pure _
      · exact (Machine.ends_sleep _).bind (fun _ _ => ends_pure _)
    · exact ends_pure _
  · -- and if another one follows, then less of the wait is left
    simp only [awaitRound, yields_bind, yields_look]
    split
    · next hlt =>
      refine yields_bind.mpr ((Machine.ticks_poll k w₁).mono (fun status w₂ h₂ => ?_)
        (fun _ _ _ => trivial))
      split
      · exact (yields_pure _).mpr (by rintro ⟨⟩)
      · refine yields_bind.mpr ((waitLeft_sleep hp hlt h₂).mono (fun _ w₃ h₃ => ?_)
          (fun _ _ _ => trivial))
        exact (yields_pure _).mpr (fun _ => ⟨trivial, h₃⟩)
    · exact (yields_pure _).mpr (by rintro ⟨⟩)

theorem ends_askToStop (platform : Platform) (k : ChildId) {w : World τ} :
    (askToStop platform k).Ends w := by
  refine (ends_look _).bind (fun pid _ => ?_)
  split
  · refine ends_rescue ((Machine.ends_ask k).bind fun _ _ => ends_note _) (fun e y he w' => ?_)
    split at he
    · rw [← Option.some.inj he]
      exact ends_note _
    · cases he
  · exact ends_note _

/-- **A shutdown ends** if the pauses of its wait are longer than nothing. -/
theorem ends_shutdown {keeper : Keeper Rat} (hp : 0 < keeper.pollInterval) {w : World Rat} :
    keeper.shutdown.Ends w := by
  refine (ends_of_run (run_release w)).bind (fun kept w₁ => ?_)
  cases kept with
  | none => exact ends_pure ()
  | some k =>
    refine (Machine.ends_poll k).bind (fun status w₂ => ?_)
    cases status with
    | some code => exact (ends_look _).bind fun _ _ => ends_note _
    | none =>
      refine (ends_look _).bind (fun pid _ => (ends_note _).bind (fun _ _ =>
        (ends_askToStop _ k).bind (fun _ _ => (ends_awaitExit k _ hp).bind (fun exited _ => ?_))))
      split
      · exact ends_note _
      · exact (ends_note _).bind fun _ _ => (ends_killAndWait k).bind fun _ _ => ends_note _

/-- **A shutdown stops the child in charge**, whatever the child does and
whatever the times are, if the pauses are longer than nothing: it ends, and
if no pause was interrupted, then it has returned, nobody is in charge of the
child any more, the child has a status, and what was done is one of the
courses of a shutdown. From the request to a kill passes at least the time
that the child has to exit. After that there is nothing left to shut down. -/
theorem shutdown_stops_child (keeper : Keeper Rat) {w : World Rat} {k : ChildId} {c : Child Rat}
    (hp : 0 < keeper.pollInterval) (hk : w.kept = some k) (hc : w.child? k = some c) :
    ∃ ending w', keeper.shutdown.run w = some (ending, w') ∧ (Quiet w w' →
      ending = .returned () ∧ w'.kept = none ∧
      (∃ seen, Stops k w w' seen ∧ Course keeper k c w.clock seen ∧
        ∀ pid asked killed, (asked, .call k pid (.signal Machine.terminate)) ∈ seen →
          (killed, .call k pid .kill) ∈ seen → keeper.shutdownTimeout ≤ killed - asked) ∧
      keeper.shutdown.run w' = some (.returned (), w')) := by
  obtain ⟨ending, w', hrun⟩ := (ends_shutdown hp : keeper.shutdown.Ends w).exists_run
  refine ⟨ending, w', hrun, fun hq => ?_⟩
  obtain ⟨⟨⟩, rfl, hk', seen, hcourse, hstops⟩ :=
    (undisturbed_shutdown keeper hk hc).returned hrun hq
  refine ⟨rfl, hk', ⟨seen, hstops, hcourse, fun pid asked killed ha hkill => ?_⟩,
    run_shutdown_of_free keeper hk'⟩
  rw [hcourse.eq_of_signal ha]
  exact le_of_not_gt (hcourse.not_lt_of_kill hkill)

/-- A child that would run for ever, stopped on Linux. -/
theorem shutdown_stops_child_that_ignores :
    let keeper : Keeper Rat := .usual .linux
    let c : Child Rat := .born .plain 0 0
    let w : World Rat := { World.still 0 (FileTree.empty []) ⟨[], none⟩ with
      children := [some c]
      kept := some 0 }
    0 < keeper.pollInterval ∧ w.kept = some 0 ∧ w.child? 0 = some c ∧
      ∃ w', keeper.shutdown.run w = some (.returned (), w') ∧ w'.kept = none ∧
        (∃ seen, Stops 0 w w' seen ∧ Course keeper 0 c w.clock seen) ∧
        keeper.shutdown.run w' = some (.returned (), w') := by
  intro keeper c w
  have hp : 0 < keeper.pollInterval := by decide +kernel
  obtain ⟨ending, w', hrun, h⟩ :=
    shutdown_stops_child keeper hp (rfl : w.kept = some 0) (rfl : w.child? 0 = some c)
  -- nobody interrupts in this world
  obtain ⟨rfl, hk', ⟨seen, hstops, hcourse, -⟩, hagain⟩ := h (fun _ _ _ => rfl)
  exact ⟨hp, rfl, rfl, w', hrun, hk', ⟨seen, hstops, hcourse⟩, hagain⟩

end Keeper

end LocalServer
