import LocalServer.Keeper
import LocalServer.Proofs.Dealings

/-!
# Calls on a child

What each call does to a world in which the child is there, as an equation
for its run. From these follows what the keeper does with a child that it
gives up on: it is killed and its end is waited for, whether or not there is
a process any more to be killed (`Keeper.run_killAndWait`), and then its
status is known.

Of a relation between worlds it is enough to know that no event and no change
of a child breaks it: then no call does.
-/

namespace LocalServer

open Act World

variable {τ : Type}

namespace World

variable {w : World τ} {k : ChildId} {c c' : Child τ}

theorem setChild_of_child? (h : w.child? k = some c) : w.setChild k c = w := by
  have hk : w.children[k]? = some (some c) := Option.join_eq_some_iff.mp h
  have hset : w.children.set k (some c) = w.children := by
    obtain ⟨hlt, hget⟩ := List.getElem?_eq_some_iff.mp hk
    rw [← hget, List.set_getElem_self]
  rw [setChild, hset]

/-- In a list of children that has grown by one, the new one comes behind
those that were there. -/
theorem child?_concat {w' : World τ} {o : Option (Child τ)}
    (h : w'.children = w.children ++ [o]) (j : ChildId) :
    w'.child? j = if j = w.children.length then o else w.child? j := by
  rw [child?, h, child?]
  rcases Nat.lt_trichotomy j w.children.length with hlt | rfl | hgt
  · rw [List.getElem?_append_left hlt, if_neg (Nat.ne_of_lt hlt)]
  · rw [List.getElem?_concat_length, Option.join_some, if_pos rfl]
  · rw [List.getElem?_eq_none (by rw [List.length_append]; exact hgt),
      List.getElem?_eq_none (Nat.le_of_lt hgt), if_neg (Nat.ne_of_gt hgt)]

/-- Of two changes of one child the second counts. -/
theorem setChild_setChild (w : World τ) (k : ChildId) (c c' : Child τ) :
    (w.setChild k c).setChild k c' = w.setChild k c' := by
  simp only [setChild, List.set_set]

theorem record_setChild (w : World τ) (k : ChildId) (c : Child τ) (e : Event τ) :
    (w.setChild k c).record e = (w.record e).setChild k c := rfl

theorem child?_setChild (h : w.child? k = some c) (c' : Child τ) :
    (w.setChild k c').child? k = some c' :=
  child?_setChild_self (by rw [h, Option.isSome_some]) c'

theorem pid_of_child? (h : w.child? k = some c) : w.pid k = c.pid := by
  rw [pid, h, Option.map_some, Option.getD_some]

/-- The world in which a call on a child is seen. -/
def called (w : World τ) (k : ChildId) (call : Call) : World τ :=
  w.record (.call k (w.pid k) call)

end World

namespace Machine

variable [Seconds τ] {w : World τ} {k : ChildId} {c : Child τ}

/-- A child that is asked for its status is looked at, and what is seen is
kept. -/
theorem run_poll (h : w.child? k = some c) :
    (poll k).run w = some (.returned (c.reap w.clock).status,
      (w.called k .poll).setChild k (c.reap w.clock)) := by
  have hw : (w.called k .poll).child? k = some c := h
  simp only [run, poll, bind, andThen, recordCall, change]
  rw [← called, hw]
  rfl

/-- A child that is asked to stop reacts. If there is no process any more to
be asked, then a fault says so, and nothing has changed. -/
theorem run_ask (h : w.child? k = some c) :
    ∃ ending, (ending = .returned () ∨ ending = .raised processGone) ∧
      (ask k).run w = some (ending,
        (w.called k (.signal terminate)).setChild k (c.asked w.clock)) := by
  have hw : (w.called k (.signal terminate)).child? k = some c := h
  simp only [run, ask, bind, andThen, recordCall, change]
  rw [← called, hw]
  dsimp only
  cases hreact : c.onTerm with
  | gone =>
    have hasked : c.asked w.clock = c := by rw [Child.asked, hreact]
    rw [hasked, setChild_of_child? hw]
    exact ⟨_, Or.inr rfl, rfl⟩
  | ignores => exact ⟨_, Or.inl rfl, rfl⟩
  | exits after code => exact ⟨_, Or.inl rfl, rfl⟩

/-- A child that is killed is struck, unless there is no process any more to
be killed. -/
theorem run_kill (h : w.child? k = some c) :
    (kill k).run w = if c.goneOnKill = true
      then some (.raised processGone, w.called k .kill)
      else some (.returned (), (w.called k .kill).setChild k (c.struck w.clock)) := by
  have hw : (w.called k .kill).child? k = some c := h
  simp only [run, kill, bind, andThen, recordCall, change]
  rw [← called, hw]
  dsimp only
  split <;> rfl

/-- A child that is waited for has a status then. -/
theorem run_wait (h : w.child? k = some c) :
    (wait k).run w = some (.returned (),
      { (w.called k .wait).setChild k (c.awaited w.clock).2 with
        clock := (c.awaited w.clock).1 }) := by
  have hw : (w.called k .wait).child? k = some c := h
  simp only [run, wait, bind, andThen, recordCall, change]
  rw [← called, hw]
  rfl

/-! A call ends, whether or not the child is there. -/

theorem ends_poll (k : ChildId) : (poll k).Ends w := by
  refine (ends_change _ : (recordCall k .poll).Ends w).bind (fun _ w₁ => ?_)
  simp only [Ends, run]
  split <;> rfl

theorem ends_ask (k : ChildId) : (ask k).Ends w := by
  refine (ends_change _ : (recordCall k _).Ends w).bind (fun _ w₁ => ?_)
  simp only [Ends, run]
  split
  · split <;> rfl
  · rfl

theorem ends_kill (k : ChildId) : (kill k).Ends w := by
  refine (ends_change _ : (recordCall k .kill).Ends w).bind (fun _ w₁ => ?_)
  simp only [Ends, run]
  split
  · split <;> rfl
  · rfl

theorem ends_wait (k : ChildId) : (wait k).Ends w := by
  refine (ends_change _ : (recordCall k .wait).Ends w).bind (fun _ w₁ => ?_)
  simp only [Ends, run]
  split <;> rfl

/-! A call keeps every relation that is not broken when the call is seen or by a change
of a child, and the last one also not by the time that a wait takes. -/

section Keeps

variable {R : World τ → World τ → Prop} [IsPreorder (World τ) R]

theorem keeps_poll (hrecord : ∀ (w : World τ) k pid, R w (w.record (.call k pid .poll)))
    (hset : ∀ (w : World τ) k c, R w (w.setChild k c)) (k : ChildId) : (poll k).Keeps R := by
  refine Keeps.bind (Keeps.change fun w => hrecord w k _) (fun _ w ending w' h => ?_)
  simp only [run] at h
  split at h <;> cases h
  · exact hset w _ _
  · exact refl_of R w

theorem keeps_ask
    (hrecord : ∀ (w : World τ) k pid, R w (w.record (.call k pid (.signal terminate))))
    (hset : ∀ (w : World τ) k c, R w (w.setChild k c)) (k : ChildId) : (ask k).Keeps R := by
  refine Keeps.bind (Keeps.change fun w => hrecord w k _) (fun _ w ending w' h => ?_)
  simp only [run] at h
  split at h
  · split at h <;> cases h
    · exact refl_of R w
    · exact hset w _ _
  · cases h
    exact refl_of R w

theorem keeps_kill (hrecord : ∀ (w : World τ) k pid, R w (w.record (.call k pid .kill)))
    (hset : ∀ (w : World τ) k c, R w (w.setChild k c)) (k : ChildId) : (kill k).Keeps R := by
  refine Keeps.bind (Keeps.change fun w => hrecord w k _) (fun _ w ending w' h => ?_)
  simp only [run] at h
  split at h
  · split at h <;> cases h
    · exact refl_of R w
    · exact hset w _ _
  · cases h
    exact refl_of R w

theorem keeps_wait (hrecord : ∀ (w : World τ) k pid, R w (w.record (.call k pid .wait)))
    (hset : ∀ (w : World τ) k c time, R w { w.setChild k c with clock := time })
    (k : ChildId) : (wait k).Keeps R := by
  refine Keeps.bind (Keeps.change fun w => hrecord w k _) (fun _ w ending w' h => ?_)
  simp only [run] at h
  split at h <;> cases h
  · exact hset w _ _ _
  · exact refl_of R w

end Keeps

end Machine

namespace Child

variable [Seconds τ]

@[simp] theorem pid_struck (now : τ) (c : Child τ) : (c.struck now).pid = c.pid := by
  simp only [struck]
  split
  · exact pid_reap now c
  · exact pid_reap now c

end Child

namespace Keeper

variable [Seconds τ] {w : World τ} {k : ChildId} {c : Child τ}

/-- **A round of the wait for a child** is a look at it and a pause. -/
theorem keeps_awaitRound {R : World τ → World τ → Prop} [IsPreorder (World τ) R]
    (hpoll : (Machine.poll k).Keeps R) {interval : τ} (hsleep : (Machine.sleep interval).Keeps R)
    (timeout start : τ) : (awaitRound k timeout interval start).Keeps R := by
  refine (Keeps.look _).bind (fun now => ?_)
  split
  · refine hpoll.bind (fun status => ?_)
    split
    · exact Keeps.pure _
    · exact hsleep.bind (fun _ => Keeps.pure _)
  · exact Keeps.pure _

/-- The world after a child was killed for good: two calls are seen, and the
child has changed. -/
def afterKill (w : World τ) (k : ChildId) (pid : Int) (c : Child τ) (now : τ) : World τ :=
  { ((w.record (.call k pid .kill)).record (.call k pid .wait)).setChild k c with clock := now }

/-- **A child that is killed for good has a status.** It is killed and waited
for; that there was no process any more to be killed is no obstacle. -/
theorem run_killAndWait (h : w.child? k = some c) :
    ∃ c' now, c'.status.isSome = true ∧
      (killAndWait k).run w = some (.returned (), afterKill w k c.pid c' now) := by
  have hkill := Machine.run_kill h
  by_cases hg : c.goneOnKill = true
  · -- there is no process to be killed, and the wait finds the child as it was
    rw [if_pos hg] at hkill
    have hgone : ((Machine.kill k).rescue fun e =>
        if Machine.isProcessGone e then some (pure ()) else none).run w
          = some (.returned (), w.called k .kill) :=
      (run_rescue_of_raised hkill (if_pos rfl)).trans (run_pure () _)
    refine ⟨(c.awaited w.clock).2, (c.awaited w.clock).1, c.isSome_status_awaited w.clock, ?_⟩
    rw [killAndWait, run_bind_of_returned hgone,
      Machine.run_wait (show (w.called k .kill).child? k = some c from h), afterKill, called,
      pid_of_child? (show (w.called k .kill).child? k = some c from h), called, pid_of_child? h]
    rfl
  · -- the child is struck first, so it is changed twice
    rw [if_neg hg] at hkill
    have hs : ((w.called k .kill).setChild k (c.struck w.clock)).child? k = some _ :=
      child?_setChild (show (w.called k .kill).child? k = some c from h) _
    refine ⟨((c.struck w.clock).awaited w.clock).2, ((c.struck w.clock).awaited w.clock).1,
      Child.isSome_status_awaited _ _, ?_⟩
    rw [killAndWait, run_bind_of_returned (run_rescue_of_returned hkill _), Machine.run_wait hs,
      afterKill, called, pid_of_child? hs, Child.pid_struck, record_setChild, setChild_setChild,
      called, pid_of_child? h]
    rfl

/-- To kill a child for good does not take for ever. -/
theorem ends_killAndWait (k : ChildId) : (killAndWait k).Ends w := by
  refine (ends_rescue (Machine.ends_kill k) (fun e y he w' => ?_)).bind
    (fun _ _ => Machine.ends_wait k)
  split at he
  · rw [← Option.some.inj he]
    exact ends_pure ()
  · cases he

theorem ends_giveUp (k : ChildId) : (giveUp k).Ends w :=
  (ends_look _).bind fun _ _ => (ends_note _).bind fun _ _ => ends_killAndWait k

omit [Seconds τ] in
theorem ends_takeCharge (k : ChildId) : (takeCharge k).Ends w := by
  refine (ends_look _).bind (fun pid _ => (ends_look _).bind (fun kept _ => ?_))
  cases kept with
  | some j => exact ends_raise _
  | none => exact (ends_change _).bind (fun _ _ => ends_note _)

end Keeper

end LocalServer
