import LocalServer.Proofs.Shutdown

/-!
# Shutdowns that are interrupted

A shutdown lets go of the child in charge before it stops it, and from then
on nobody else knows of the child. If the shutdown returns, that does no
harm: the child has a status. But its pauses may be interrupted, and a fault
that comes out of a pause ends the shutdown where it is. Then the child has
no status and nobody is in charge of it: it is **stranded**
(`World.Stranded`), and no later shutdown will stop it.

The main statement says exactly when this happens: a shutdown strands its
child if and only if one of its pauses raises a fault. Two things are needed
for it. A wait ends without a status of the child only where the look before
showed none (`Keeper.yields_shutdown`), and a shutdown passes on the faults of
its pauses, the first one that comes, and has none of its own
(`Act.Relays`).
-/

namespace LocalServer

open Act World

variable {τ : Type} {α β : Type}

/-! ## Children without a status -/

namespace World

/-- **A child has been reaped**: its status has been collected. -/
def Reaped (w : World τ) (k : ChildId) : Prop :=
  ∃ c, w.child? k = some c ∧ c.status.isSome = true

/-- **A child has not been reaped**: it is there, and its status has not been
collected. -/
def Unreaped (w : World τ) (k : ChildId) : Prop :=
  ∃ c, w.child? k = some c ∧ c.status = none

/-- **A child is stranded**: it has not been reaped, and the keeper is not in
charge of it. -/
def Stranded (w : World τ) (k : ChildId) : Prop :=
  w.Unreaped k ∧ w.kept ≠ some k

variable {w w' : World τ} {k : ChildId}

theorem Unreaped.not_reaped (h : w.Unreaped k) : ¬ w.Reaped k := by
  rintro ⟨c, hc, hs⟩
  obtain ⟨c', hc', hn⟩ := h
  cases Option.some.inj (hc.symm.trans hc')
  rw [hn] at hs
  cases hs

theorem Unreaped.of_leaves (h : w.Unreaped k) (hl : LeavesChildren w w') : w'.Unreaped k := by
  obtain ⟨c, hc, hs⟩ := h
  exact ⟨c, (hl.child? k).trans hc, hs⟩

end World

/-- Whoever is asked to stop has no other status than before. -/
@[simp] theorem Child.status_asked [Seconds τ] (now : τ) (c : Child τ) :
    (c.asked now).status = c.status := by
  simp only [asked]
  split
  · split
    · split <;> rfl
    · rfl
  · rfl

namespace Keeper

variable [Seconds τ] {w w₁ : World τ} {k : ChildId}

/-- **A round of the wait** shows whether the child has a status; the wait
goes on, or is interrupted, only if it has none. -/
theorem yields_awaitRound (timeout interval start : τ) (hk : w₁.kept = w.kept)
    (h : w₁.Unreaped k) :
    (awaitRound k timeout interval start).Yields w₁
      (fun o w' => w'.kept = w.kept ∧ if o = some true then w'.Reaped k else w'.Unreaped k)
      (fun _ w' => w'.kept = w.kept ∧ w'.Unreaped k) := by
  obtain ⟨c, hc, hs⟩ := h
  simp only [awaitRound, yields_bind, yields_look]
  split
  · simp only [yields_bind, yields_of_returned (Machine.run_poll hc)]
    have hpolled : (w₁.called k .poll).child? k = some c := hc
    split
    · next hx => exact (yields_pure _).mpr ⟨hk, _, child?_setChild hpolled _, hx⟩
    · next hx =>
      have hnone : (c.reap w₁.clock).status = none := Option.not_isSome_iff_eq_none.mp hx
      have hopen : ((w₁.called k .poll).setChild k (c.reap w₁.clock)).Unreaped k :=
        ⟨_, child?_setChild hpolled _, hnone⟩
      -- the pause that follows does nothing to the child, whether or not it is interrupted
      refine yields_bind.mpr ((Machine.keeps_sleep interval _).mono (fun _ w₂ h₂ => ?_)
        (fun _ w₂ h₂ => ⟨h₂.kept.trans hk, hopen.of_leaves h₂⟩))
      exact (yields_pure _).mpr ⟨h₂.kept.trans hk, hopen.of_leaves h₂⟩
  · exact (yields_pure _).mpr ⟨hk, c, hc, hs⟩

/-- **A wait for a child**, whether or not it is interrupted, ends without a
status of the child unless it finds that the child has exited. -/
theorem yields_awaitExit (timeout interval : τ) (h : w.Unreaped k) :
    (awaitExit k timeout interval).Yields w
      (fun exited w' => w'.kept = w.kept ∧
        if exited = true then w'.Reaped k else w'.Unreaped k)
      (fun _ w' => w'.kept = w.kept ∧ w'.Unreaped k) := by
  refine yields_bind.mpr ((yields_look _).mpr ?_)
  -- as long as the wait goes on, the child has no status
  refine Yields.loop (fun w₁ => w₁.kept = w.kept ∧ w₁.Unreaped k) ⟨rfl, h⟩ (fun w₁ h₁ => ?_)
  refine (yields_awaitRound timeout interval w.clock h₁.1 h₁.2).mono (fun o w₂ h₂ => ?_)
    (fun _ _ h₂ => h₂)
  cases o with
  | none => exact h₂
  | some exited => cases exited <;> exact h₂

/-- **To ask a child to stop** collects no status, and raises no fault. -/
theorem yields_askToStop (platform : Platform) (h : w.Unreaped k) :
    (askToStop platform k).Yields w (fun _ w' => w'.kept = w.kept ∧ w'.Unreaped k)
      (fun _ _ => False) := by
  obtain ⟨c, hc, hs⟩ := h
  obtain ⟨w₁, hask, hreq⟩ := run_askToStop platform hc
  refine (yields_of_returned hask).mpr ⟨hreq.kept, _,
    child?_of_children_eq_set hc hreq.children, ?_⟩
  rw [requested]
  split
  · rw [Child.status_asked, hs]
  · exact hs

/-- **Stopping a child**: it has a status unless a pause is interrupted. -/
theorem yields_stop (keeper : Keeper τ) (h : w.Unreaped k) :
    (keeper.stop k).Yields w (fun _ w' => w'.kept = w.kept ∧ w'.Reaped k)
      (fun _ w' => w'.kept = w.kept ∧ w'.Unreaped k) := by
  have hnoted : (w.record (.notice (.stopping (w.pid k)))).Unreaped k :=
    h.of_leaves (.record rfl w)
  simp only [stop, yields_bind, yields_look, yields_note]
  refine (yields_askToStop keeper.platform hnoted).mono (fun _ w₁ h₁ => ?_) (fun _ _ h₁ => h₁.elim)
  obtain ⟨hkept, hopen⟩ := h₁
  refine (yields_awaitExit _ _ hopen).mono (fun exited w₂ h₂ => ?_)
    (fun _ w₂ h₂ => ⟨h₂.1.trans hkept, h₂.2⟩)
  obtain ⟨hk₂, h₂⟩ := h₂
  cases exited with
  | true => exact yields_note.mpr ⟨hk₂.trans hkept, h₂⟩
  | false =>
    obtain ⟨c₂, hc₂, -⟩ := h₂
    simp only [Bool.false_eq_true, if_false, yields_bind, yields_note]
    obtain ⟨c', now, hs', hkill⟩ := run_killAndWait
      (show (w₂.record (.notice _)).child? k = some c₂ from hc₂)
    refine (yields_of_returned hkill).mpr ⟨hk₂.trans hkept, c', ?_, hs'⟩
    exact child?_setChild (w := w₂) hc₂ c'

/-- **A shutdown lets go of its child** in any case, and has reaped it if and
only if it returns. -/
theorem yields_shutdown (keeper : Keeper τ) {c : Child τ} (hk : w.kept = some k)
    (hc : w.child? k = some c) :
    keeper.shutdown.Yields w (fun _ w' => w'.kept = none ∧ w'.Reaped k)
      (fun _ w' => w'.kept = none ∧ w'.Unreaped k) := by
  have hlooked : (looked w k).child? k = some c := hc
  cases hstatus : (c.reap w.clock).status with
  | some code =>
    rw [yields_of_returned (run_shutdown_of_exited keeper hk hc hstatus)]
    exact ⟨rfl, c.reap w.clock, child?_setChild hlooked _, by rw [hstatus, Option.isSome_some]⟩
  | none =>
    have hx : c.hasExited w.clock = false := Child.hasExited_eq_false_iff.mpr hstatus
    rw [Child.reap_of_not_hasExited hx] at hstatus
    rw [yields_congr (run_shutdown_of_running keeper hk hc hx)]
    exact keeper.yields_stop ⟨c, hlooked, hstatus⟩

end Keeper

/-! ## Faults that come out of pauses -/

namespace World

/-- The fault that a pause raises, if it is interrupted by one. -/
def faultAt (w : World τ) (n : Nat) : Option (Fault τ) :=
  (w.interruptions.lookup n).bind (Machine.raisedBy w)

/-- **Nothing was raised** in the pauses between two worlds. -/
structure Calm (w w' : World τ) : Prop where
  faultAt : w'.faultAt = w.faultAt
  pauses : w.pauses ≤ w'.pauses
  calm : ∀ n, w.pauses < n → n ≤ w'.pauses → w.faultAt n = none

/-- **The last pause** between two worlds has raised a fault, and none before
it has. -/
structure CutShort (e : Fault τ) (w w' : World τ) : Prop where
  pauses : w.pauses < w'.pauses
  raised : w.faultAt w'.pauses = some e
  calm : ∀ n, w.pauses < n → n < w'.pauses → w.faultAt n = none

variable {w w₁ w' : World τ}

theorem Calm.of_eq (hf : w'.faultAt = w.faultAt) (hp : w'.pauses = w.pauses) : Calm w w' where
  faultAt := hf
  pauses := Nat.le_of_eq hp.symm
  calm _ hlt hle := absurd (Nat.lt_of_lt_of_le hlt (hp ▸ hle)) (Nat.lt_irrefl _)

instance : IsPreorder (World τ) Calm where
  refl _ := .of_eq rfl rfl
  trans a b c h h' := by
    refine ⟨h'.faultAt.trans h.faultAt, h.pauses.trans h'.pauses, fun n hlt hle => ?_⟩
    -- each pause was made before the world in the middle or after it
    rcases Nat.le_total n b.pauses with hn | hn
    · exact h.calm n hlt hn
    · rcases Nat.lt_or_eq_of_le hn with hb | rfl
      · rw [← h.faultAt]
        exact h'.calm n hb hle
      · exact h.calm _ hlt (Nat.le_refl _)

/-- What is cut short after a calm time is cut short as a whole. -/
theorem Calm.cutShort {e : Fault τ} (h : Calm w w₁) (h' : CutShort e w₁ w') :
    CutShort e w w' where
  pauses := Nat.lt_of_le_of_lt h.pauses h'.pauses
  raised := by rw [← h.faultAt, h'.raised]
  calm n hlt hn := by
    rcases Nat.lt_or_ge w₁.pauses n with hb | hb
    · rw [← h.faultAt]
      exact h'.calm n hb hn
    · exact h.calm n hlt hb

/-- A time that was cut short was not calm. -/
theorem CutShort.not_calm {e : Fault τ} (h : CutShort e w w') : ¬ Calm w w' := by
  intro hc
  have hnone := hc.calm _ h.pauses (Nat.le_refl _)
  rw [h.raised] at hnone
  cases hnone

end World

namespace Act

/-- **An action relays faults** if it raises those that come out of its pauses
and no others, and is ended by the first one. -/
def Relays (x : Act τ α) : Prop :=
  ∀ w, x.Yields w (fun _ => Calm w) (fun e => CutShort e w)

/-- **An action that is never interrupted**: it makes no pause and raises no
fault. -/
def Settled (x : Act τ α) : Prop :=
  ∀ w, x.Yields w (fun _ w' => w'.faultAt = w.faultAt ∧ w'.pauses = w.pauses) (fun _ _ => False)

variable {x : Act τ α}

theorem Settled.relays (h : x.Settled) : x.Relays :=
  fun w => (h w).mono (fun _ _ h => .of_eq h.1 h.2) (fun _ _ h => h.elim)

theorem settled_pure (a : α) : (pure a : Act τ α).Settled :=
  fun _ => (yields_pure a).mpr ⟨rfl, rfl⟩

theorem settled_look (f : World τ → α) : (look f).Settled :=
  fun _ => (yields_look f).mpr ⟨rfl, rfl⟩

theorem settled_note (n : Notice τ) : (note n).Settled :=
  fun _ => yields_note.mpr ⟨rfl, rfl⟩

theorem Settled.bind {f : α → Act τ β} (hx : x.Settled) (hf : ∀ a, (f a).Settled) :
    (x >>= f).Settled := by
  intro w
  refine yields_bind.mpr ((hx w).mono (fun a w₁ h₁ => ?_) (fun _ _ h => h))
  exact (hf a w₁).mono (fun _ _ h₂ => ⟨h₂.1.trans h₁.1, h₂.2.trans h₁.2⟩) (fun _ _ h => h)

theorem Relays.bind {f : α → Act τ β} (hx : x.Relays) (hf : ∀ a, (f a).Relays) :
    (x >>= f).Relays := by
  intro w
  refine yields_bind.mpr ((hx w).mono (fun a w₁ h₁ => ?_) (fun _ _ h => h))
  exact (hf a w₁).mono (fun _ _ h₂ => trans_of Calm h₁ h₂) (fun _ _ h₂ => h₁.cutShort h₂)

theorem Relays.loop {body : Act τ (Option α)} (hx : body.Relays) : (Act.loop body).Relays := by
  intro w
  refine Yields.loop (Calm w) (refl_of Calm w) (fun w₁ h₁ => (hx w₁).mono (fun o w₂ h₂ => ?_)
    (fun _ _ h₂ => h₁.cutShort h₂))
  cases o with
  | none => exact trans_of Calm h₁ h₂
  | some a => exact trans_of Calm h₁ h₂

end Act

namespace Machine

variable [Seconds τ]

/-- **A pause** raises the fault that belongs to it. -/
theorem relays_sleep (pause : τ) : (sleep pause).Relays := by
  -- there is only one pause to ask about, the next one
  have hcalm : ∀ w w' : World τ, w'.faultAt = w.faultAt → w'.pauses = w.pauses + 1 →
      w.faultAt (w.pauses + 1) = none → Calm w w' := by
    intro w w' hf hp hnone
    refine ⟨hf, by omega, fun n hlt hle => ?_⟩
    rwa [show n = w.pauses + 1 by omega]
  intro w ending w' h
  simp only [run, sleep] at h
  split at h
  · next hi =>
    cases h
    exact hcalm w _ rfl rfl (congrArg (Option.bind · (raisedBy w)) hi)
  · next i hi =>
    have hfault : w.faultAt (w.pauses + 1) = raisedBy w i :=
      congrArg (Option.bind · (raisedBy w)) hi
    split at h
    · next e he =>
      cases h
      exact ⟨Nat.lt_succ_self _, hfault.trans he,
        fun n hlt hn => absurd (Nat.le_of_lt_succ hn) (Nat.not_le_of_lt hlt)⟩
    · next hnone =>
      cases h
      exact hcalm w _ rfl rfl (hfault.trans hnone)

theorem settled_poll (k : ChildId) : (poll k : Act τ _).Settled := by
  refine Settled.bind (fun w => yields_change.mpr ⟨rfl, rfl⟩) (fun _ w ending w' h => ?_)
  simp only [run] at h
  split at h <;> cases h <;> exact ⟨rfl, rfl⟩

theorem settled_wait (k : ChildId) : (wait k : Act τ _).Settled := by
  refine Settled.bind (fun w => yields_change.mpr ⟨rfl, rfl⟩) (fun _ w ending w' h => ?_)
  simp only [run] at h
  split at h <;> cases h <;> exact ⟨rfl, rfl⟩

/-- The only fault of a request to stop is that the process is gone. -/
theorem yields_ask (k : ChildId) (w : World τ) :
    (ask k).Yields w (fun _ w' => w'.faultAt = w.faultAt ∧ w'.pauses = w.pauses)
      (fun e w' => isProcessGone e = true ∧ w'.faultAt = w.faultAt ∧ w'.pauses = w.pauses) := by
  refine yields_bind.mpr (yields_change.mpr (fun ending w' h => ?_))
  simp only [run] at h
  split at h
  · split at h <;> cases h
    · exact ⟨rfl, rfl, rfl⟩
    · exact ⟨rfl, rfl⟩
  · cases h
    exact ⟨rfl, rfl⟩

/-- The only fault of a kill is that the process is gone. -/
theorem yields_kill (k : ChildId) (w : World τ) :
    (kill k).Yields w (fun _ w' => w'.faultAt = w.faultAt ∧ w'.pauses = w.pauses)
      (fun e w' => isProcessGone e = true ∧ w'.faultAt = w.faultAt ∧ w'.pauses = w.pauses) := by
  refine yields_bind.mpr (yields_change.mpr (fun ending w' h => ?_))
  simp only [run] at h
  split at h
  · split at h <;> cases h
    · exact ⟨rfl, rfl, rfl⟩
    · exact ⟨rfl, rfl⟩
  · cases h
    exact ⟨rfl, rfl⟩

end Machine

namespace Keeper

variable [Seconds τ] {w w' : World τ} {k : ChildId}

/-- A request to stop is never interrupted. -/
theorem settled_askToStop (platform : Platform) (k : ChildId) :
    (askToStop platform k : Act τ Unit).Settled := by
  refine (settled_look _).bind (fun pid => ?_)
  split
  · intro w
    simp only [yields_rescue, yields_bind, yields_note]
    refine (Machine.yields_ask k w).mono (fun _ w₁ h₁ => h₁) (fun e w₁ h₁ => ?_)
    rw [if_pos h₁.1]
    exact yields_note.mpr h₁.2
  · exact settled_note _

/-- Killing a child for good is never interrupted. -/
theorem settled_killAndWait (k : ChildId) : (killAndWait k : Act τ Unit).Settled := by
  refine Settled.bind (fun w => ?_) (fun _ => Machine.settled_wait k)
  refine yields_rescue.mpr ((Machine.yields_kill k w).mono (fun _ w₁ h₁ => h₁) (fun e w₁ h₁ => ?_))
  rw [if_pos h₁.1]
  exact (yields_pure ()).mpr h₁.2

theorem relays_awaitExit (k : ChildId) (timeout interval : τ) :
    (awaitExit k timeout interval).Relays := by
  refine (settled_look _).relays.bind (fun start => Relays.loop ?_)
  refine (settled_look _).relays.bind (fun now => ?_)
  split
  · refine (Machine.settled_poll k).relays.bind (fun status => ?_)
    split
    · exact (settled_pure _).relays
    · exact (Machine.relays_sleep interval).bind fun _ => (settled_pure _).relays
  · exact (settled_pure _).relays

/-- **A shutdown relays faults**: the first pause that raises one ends it. -/
theorem relays_shutdown (keeper : Keeper τ) : keeper.shutdown.Relays := by
  have hrelease : (release : Act τ (Option ChildId)).Settled :=
    (settled_look _).bind fun _ => Settled.bind (fun _ => yields_change.mpr ⟨rfl, rfl⟩)
      fun _ => settled_pure _
  refine hrelease.relays.bind (fun kept => ?_)
  cases kept with
  | none => exact (settled_pure ()).relays
  | some k =>
    refine (Machine.settled_poll k).relays.bind (fun status => ?_)
    cases status with
    | some code => exact ((settled_look _).bind fun _ => settled_note _).relays
    | none =>
      refine (settled_look _).relays.bind (fun pid => (settled_note _).relays.bind (fun _ => ?_))
      refine (settled_askToStop _ k).relays.bind (fun _ => ?_)
      refine (relays_awaitExit k _ _).bind (fun exited => ?_)
      split
      · exact (settled_note _).relays
      · exact ((settled_note _).bind fun _ => (settled_killAndWait k).bind
          fun _ => settled_note _).relays

/-- A wait whose first round raises a fault raises it. -/
theorem run_awaitExit_of_raised {timeout interval : τ} {e : Fault τ}
    (h : (awaitRound k timeout interval w.clock).run w = some (.raised e, w')) :
    (awaitExit k timeout interval).run w = some (.raised e, w') := by
  rw [awaitExit, run_bind_of_returned (run_look _ w), run_loop, run_bind_of_raised h]

/-- A child that would run for ever. -/
def restless : Child Rat := .born .plain 0 0

/-- A world in which the keeper is in charge of that child, and the user
interrupts in the first pause. -/
def impatient : World Rat :=
  { World.still 0 (FileTree.empty []) ⟨[], none⟩ with
    children := [some restless]
    kept := some 0
    interruptions := [(1, .fault .interrupted)] }

/-- The shutdown of that child is interrupted in its first pause. -/
theorem exists_run_shutdown_impatient :
    ∃ w', (Keeper.usual .linux).shutdown.run impatient = some (.raised .interrupted, w') := by
  have hc : ({ impatient with kept := none } : World Rat).child? 0 = some restless := rfl
  -- what comes before the wait is run step by step, and of the wait its first round
  have hstop : ∃ w', ((Keeper.usual .linux).stop 0).run
      (({ impatient with kept := none } : World Rat).called 0 .poll)
        = some (.raised .interrupted, w') := by
    obtain ⟨w₁, hask, hw₁⟩ : ∃ w₁ : World Rat, (askToStop .linux 0).run
        ((({ impatient with kept := none } : World Rat).called 0 .poll).record
          (.notice (.stopping 100))) = some (.returned (), w₁) ∧
        ((awaitRound 0 usualTimeout HealthCheck.pollInterval w₁.clock).run w₁).map Prod.fst
          = some (.raised .interrupted) := ⟨_, rfl, by decide +kernel⟩
    obtain ⟨⟨_, w'⟩, hround, rfl⟩ := Option.map_eq_some_iff.mp hw₁
    refine ⟨w', ?_⟩
    rw [stop, run_bind_of_returned (run_look _ _), run_bind_of_returned (run_note _ _)]
    refine (run_bind_of_returned hask _).trans ?_
    exact run_bind_of_raised (run_awaitExit_of_raised hround) _
  obtain ⟨w', hstop⟩ := hstop
  refine ⟨w', ?_⟩
  rw [shutdown, run_bind_of_returned (run_release impatient)]
  exact (run_bind_of_returned (Machine.run_poll hc) _).trans hstop

/-- **A shutdown strands its child if and only if it is interrupted.** When a
shutdown ends, nobody is in charge of its child any more. The child has been
reaped if the shutdown has returned, and it is stranded if one of the pauses
of the shutdown has raised a fault; the fault of the first such pause is the
one that the shutdown raises. Whichever it is, a further shutdown by any
keeper does nothing, so a child that is stranded stays so. -/
theorem shutdown_strands_child_iff_interrupted (keeper : Keeper τ) {c : Child τ}
    {ending : Ending τ Unit} (hk : w.kept = some k) (hc : w.child? k = some c)
    (hrun : keeper.shutdown.run w = some (ending, w')) :
    w'.kept = none ∧
    (w'.Reaped k ↔ ending = .returned ()) ∧
    (w'.Stranded k ↔ ∃ n, w.pauses < n ∧ n ≤ w'.pauses ∧ (w.faultAt n).isSome = true) ∧
    (∀ e, ending = .raised e ↔ CutShort e w w') ∧
    ∀ again : Keeper τ, again.shutdown.run w' = some (.returned (), w') := by
  have hends := keeper.yields_shutdown hk hc _ _ hrun
  have hrelays := keeper.relays_shutdown w _ _ hrun
  cases ending with
  | returned _ =>
    obtain ⟨hfree, hreaped⟩ := hends
    refine ⟨hfree, iff_of_true hreaped rfl, ⟨fun h => absurd hreaped h.1.not_reaped, ?_⟩,
      fun e => iff_of_false (by rintro ⟨⟩) (fun h => h.not_calm hrelays),
      fun again => run_shutdown_of_free again hfree⟩
    rintro ⟨n, hlt, hle, hn⟩
    rw [Calm.calm hrelays n hlt hle] at hn
    cases hn
  | raised e =>
    obtain ⟨hfree, hopen⟩ := hends
    have hcut : CutShort e w w' := hrelays
    have hstranded : w'.Stranded k := ⟨hopen, by rw [hfree]; rintro ⟨⟩⟩
    refine ⟨hfree, iff_of_false hopen.not_reaped (by rintro ⟨⟩), iff_of_true hstranded
      ⟨w'.pauses, hcut.pauses, Nat.le_refl _, by rw [hcut.raised, Option.isSome_some]⟩,
      fun e' => ⟨?_, fun h => ?_⟩, fun again => run_shutdown_of_free again hfree⟩
    · rintro ⟨⟩
      exact hcut
    · -- there is only one last pause, and it raises only one fault
      rw [Option.some.inj (hcut.raised.symm.trans h.raised)]

/-- That shutdown strands the child, and the next one does nothing about it. -/
theorem shutdown_strands_child_of_impatient :
    impatient.kept = some 0 ∧ impatient.child? 0 = some restless ∧
      ∃ w', (Keeper.usual .linux).shutdown.run impatient = some (.raised .interrupted, w') ∧
        w'.Stranded 0 ∧ (Keeper.usual .linux).shutdown.run w' = some (.returned (), w') := by
  obtain ⟨w', hrun⟩ := exists_run_shutdown_impatient
  obtain ⟨-, -, hstranded, hraised, hagain⟩ :=
    shutdown_strands_child_iff_interrupted (.usual .linux) (rfl : impatient.kept = some 0)
      (rfl : impatient.child? 0 = some restless) hrun
  have hcut : CutShort .interrupted impatient w' := (hraised .interrupted).mp rfl
  refine ⟨rfl, rfl, w', hrun, hstranded.mpr ⟨w'.pauses, hcut.pauses, Nat.le_refl _, ?_⟩,
    hagain _⟩
  rw [hcut.raised, Option.isSome_some]

/-- **A shutdown that raises a fault is not to be retried**: it is not so that
its child always has been reaped or is still in charge. -/
theorem not_forall_reaped_or_kept_of_raised :
    ¬ ∀ (keeper : Keeper Rat) (w w' : World Rat) (k : ChildId) (c : Child Rat) (e : Fault Rat),
      w.kept = some k → w.child? k = some c →
      keeper.shutdown.run w = some (.raised e, w') → w'.Reaped k ∨ w'.kept = some k := by
  intro h
  obtain ⟨w', hrun⟩ := exists_run_shutdown_impatient
  have hc : impatient.child? 0 = some restless := rfl
  obtain ⟨hfree, hopen⟩ := yields_shutdown (.usual .linux) rfl hc _ _ hrun
  rcases h _ _ _ _ _ _ rfl hc hrun with hreaped | hkept
  · exact hopen.not_reaped hreaped
  · rw [hfree] at hkept
    cases hkept

end Keeper

end LocalServer
