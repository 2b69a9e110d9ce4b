import LocalServer.Proofs.Bootstrap
import LocalServer.Proofs.Shutdown
import LocalServer.Session

/-!
# No child is out of custody

Between the steps of a session each child that was ever started either has a
status or is the one that the keeper is in charge of (`World.Custody`). An
attempt may add a child, a look may find that the one in charge has exited,
and a shutdown lets go of a child only after it has seen to its end.

All steps but a shutdown do even more: the keeper holds on to the child in
charge (`World.HoldsOn`). So it is in charge of another child than before
only if there was a shutdown in between, after which it was in charge of
none.
-/

namespace LocalServer

open Act

variable {τ : Type}

namespace World

/-- **Custody** of all children but the first ones: each of them has a status
or is the one in charge, and the one in charge is there. -/
structure Custody (first : Nat) (w : World τ) : Prop where
  reaped_or_kept : ∀ k c, first ≤ k → w.child? k = some c →
    c.status.isSome = true ∨ w.kept = some k
  kept_child : ∀ k, w.kept = some k → ∃ c, w.child? k = some c

/-- **The keeper holds on** between two worlds to the child that it is in
charge of, and no child gets out of custody. -/
structure HoldsOn (w w' : World τ) : Prop where
  kept : ∀ k, w.kept = some k → w'.kept = some k
  custody : ∀ first, Custody first w → Custody first w'

instance : IsPreorder (World τ) HoldsOn where
  refl _ := ⟨fun _ h => h, fun _ h => h⟩
  trans _ _ _ h h' :=
    ⟨fun k hk => h'.kept k (h.kept k hk), fun n hn => h'.custody n (h.custody n hn)⟩

variable {w w' : World τ} {k : ChildId} {c : Child τ} {first : Nat}

/-- The keeper holds on if neither the children nor the one in charge have
changed. -/
theorem HoldsOn.of_eq (hkept : w'.kept = w.kept) (h : w'.children = w.children) :
    HoldsOn w w' where
  kept k hk := hkept.trans hk
  custody first hw := by
    refine ⟨fun k c hfirst hc => ?_, fun k hk => ?_⟩
    · rw [hkept]
      exact hw.reaped_or_kept k c hfirst ((child?_congr h k).symm.trans hc)
    · rw [child?_congr h]
      exact hw.kept_child k (hkept.symm.trans hk)

theorem LeavesChildren.holdsOn (h : LeavesChildren w w') : HoldsOn w w' :=
  .of_eq h.kept h.children

/-- A child that is there in a longer list of children was there before, or
it is the one that was added. -/
theorem child?_of_children_concat {o : Option (Child τ)} (h : w'.children = w.children ++ [o])
    (hc : w'.child? k = some c) : w.child? k = some c ∨ k = w.children.length ∧ o = some c := by
  rw [child?_concat h] at hc
  split at hc
  · next hk => exact Or.inr ⟨hk, hc⟩
  · exact Or.inl hc

/-- The children that were there are still there in a longer list. -/
theorem child?_concat_of_child? {o : Option (Child τ)} (h : w'.children = w.children ++ [o])
    (hc : w.child? k = some c) : w'.child? k = some c := by
  rw [child?_concat h, if_neg ?_]
  · exact hc
  · rintro rfl
    rw [World.child?, List.getElem?_eq_none (Nat.le_refl _)] at hc
    cases hc

/-- **A child that is added** stays in custody if it has a status. -/
theorem HoldsOn.of_concat {o : Option (Child τ)} (hk : w'.kept = w.kept)
    (h : w'.children = w.children ++ [o]) (ho : ∀ c, o = some c → c.status.isSome = true) :
    HoldsOn w w' where
  kept k hk' := hk.trans hk'
  custody first hw := by
    refine ⟨fun k c hfirst hc => ?_, fun k hk' => ?_⟩
    · rcases child?_of_children_concat h hc with hold | ⟨-, hnew⟩
      · rw [hk]
        exact hw.reaped_or_kept k c hfirst hold
      · exact Or.inl (ho c hnew)
    · obtain ⟨c, hc⟩ := hw.kept_child k (hk.symm.trans hk')
      exact ⟨c, child?_concat_of_child? h hc⟩

/-- **A child that is added** stays in custody if the keeper, which was in
charge of none, is in charge of it. -/
theorem HoldsOn.of_adopted (hfree : w.kept = none) (hk : w'.kept = some w.children.length)
    (h : w'.children = w.children ++ [some c]) : HoldsOn w w' where
  kept k hk' := by
    rw [hfree] at hk'
    cases hk'
  custody first hw := by
    refine ⟨fun k c' hfirst hc => ?_, fun k hk' => ?_⟩
    · rcases child?_of_children_concat h hc with hold | ⟨rfl, -⟩
      · refine (hw.reaped_or_kept k c' hfirst hold).imp_right (fun hk' => ?_)
        rw [hfree] at hk'
        cases hk'
      · exact Or.inr hk
    · cases Option.some.inj (hk.symm.trans hk')
      exact ⟨c, (child?_concat h _).trans (if_pos rfl)⟩

/-- The child in charge may change. -/
theorem HoldsOn.of_set (hkept : w'.kept = w.kept) (hk : w.kept = some k)
    (h : w'.children = w.children.set k (some c)) : HoldsOn w w' where
  kept j hj := hkept.trans hj
  custody first hw := by
    obtain ⟨c₀, hc₀⟩ := hw.kept_child k hk
    have hchild : ∀ j, w'.child? j = (w.setChild k c).child? j := child?_congr h
    refine ⟨fun j c' hfirst hc => ?_, fun j hj => ?_⟩
    · by_cases hj : j = k
      · rw [hj]
        exact Or.inr (hkept.trans hk)
      · rw [hchild, child?_setChild_of_ne hj] at hc
        rw [hkept]
        exact hw.reaped_or_kept j c' hfirst hc
    · cases Option.some.inj (hk.symm.trans (hkept.symm.trans hj))
      exact ⟨c, (hchild k).trans (child?_setChild hc₀ c)⟩

/-- After the last interruption it is quiet. -/
theorem quiet_of_lastInterruption_le (h : w.lastInterruption ≤ w.pauses) : Quiet w w' := by
  intro n hlt _
  cases hn : w.interruptions.lookup n with
  | none => rfl
  | some i =>
    have hle : n ≤ w.pauses := (le_lastInterruption hn).trans h
    exact absurd hlt (Nat.not_lt.mpr hle)

end World

open World

/-! ## What holds on -/

/-- What leaves the children alone holds on to the one in charge. -/
theorem Act.Keeps.holdsOn {α : Type} {x : Act τ α} (hx : x.Keeps LeavesChildren) :
    x.Keeps HoldsOn :=
  hx.mono fun _ _ h => h.holdsOn

/-- **However an attempt ends**, no child is out of custody. -/
theorem Attempt.Outcome.holdsOn {w w' : World τ} {ending : Ending τ Ready}
    (h : Attempt.Outcome w ending w') : HoldsOn w w' := by
  match ending, h with
  | .returned ⟨_, true⟩, h =>
    obtain ⟨hfree, k, c, hk, hplace, _, _, _, _, hg⟩ := h
    exact .of_adopted hfree (hk.trans (congrArg some hplace)) hg.children
  | .returned ⟨_, false⟩, h => exact LeavesChildren.holdsOn h
  | .raised _, h =>
    obtain ⟨hk, hg | ⟨_, _, _, hg⟩ | ⟨k, c, hs, hplace, _, _, _, _, hg⟩⟩ := h
    · exact .of_eq hk (by rw [hg.children, List.append_nil])
    · exact .of_concat hk hg.children (by rintro c ⟨⟩)
    · exact .of_concat hk hg.children (by rintro _ ⟨⟩; exact hs)

variable [Seconds τ]

theorem Attempt.holdsOn_makeReady (a : Attempt τ) (resources : Option Path) :
    (a.makeReady resources).Keeps HoldsOn :=
  fun w => (a.settles_makeReady resources w).mono (fun _ _ h => h.holdsOn) (fun _ _ h => h.holdsOn)

/-- A look at the child in charge may find that it has exited. -/
theorem Keeper.holdsOn_isAlive : (isAlive : Act τ Bool).Keeps HoldsOn := by
  intro w
  refine yields_bind.mpr ((yields_look _).mpr ?_)
  cases hk : w.kept with
  | none => exact (yields_pure _).mpr (refl_of HoldsOn w)
  | some k =>
    refine yields_bind.mpr (yields_bind.mpr (yields_change.mpr (fun ending w' h => ?_)))
    simp only [run] at h
    split at h <;> cases h
    · exact (yields_pure _).mpr (.of_set rfl hk rfl)
    · exact (yields_pure _).mpr (.of_eq rfl rfl)

/-- **After a shutdown** in which no pause was interrupted nobody is in
charge, and no child is out of custody. -/
theorem Keeper.custody_shutdown (keeper : Keeper τ) {first : Nat} {w : World τ}
    (hw : Custody first w) :
    keeper.shutdown.Undisturbed w (fun _ w' => w'.kept = none ∧ Custody first w') := by
  cases hk : w.kept with
  | none => exact .of_returned (run_shutdown_of_free keeper hk) (refl_of Passes w) ⟨hk, hw⟩
  | some k =>
    obtain ⟨c, hc⟩ := hw.kept_child k hk
    refine (undisturbed_shutdown keeper hk hc).mono (fun _ w' h => ?_)
    obtain ⟨hk', seen, -, hstops⟩ := h
    obtain ⟨c', hs, hchildren⟩ := hstops.reaped
    have hchild : ∀ j, w'.child? j = (w.setChild k c').child? j := child?_congr hchildren
    refine ⟨hk', fun j d hfirst hd => Or.inl ?_, fun j hj => ?_⟩
    · rw [hchild] at hd
      by_cases hj : j = k
      · rw [hj, child?_setChild hc, Option.some.injEq] at hd
        rw [← hd]
        exact hs
      · -- the other children were not in charge
        rw [child?_setChild_of_ne hj] at hd
        refine (hw.reaped_or_kept j d hfirst hd).resolve_right (fun hkj => hj ?_)
        exact Option.some.inj (hkj.symm.trans hk)
    · rw [hk'] at hj
      cases hj

/-! ## Steps -/

/-- **The ordinary steps** are those that leave the children to the attempts
and to the keeper, and do not name one themselves. -/
def Step.isOrdinary : Step τ → Bool
  | .takeCharge _ | .giveUp _ | .status _ | .launch _ | .awaitExit _ _ _ => false
  | _ => true

namespace Session

/-- **What goes on besides** keeps a relation that is not broken by idling, by
pauses, or by what happens around the attempts. -/
structure Besides (R : World τ → World τ → Prop) : Prop extends Idle R where
  /-- A pause keeps it, even if it is interrupted. -/
  sleep : ∀ pause, (Machine.sleep pause).Keeps R
  /-- Time may pass, and variables and files may change. -/
  around : ∀ (w : World τ) now environment files,
    R w { w with clock := now, environment := environment, files := files }

theorem besides_leaves : Besides (LeavesChildren : World τ → World τ → Prop) where
  toIdle := idle_leaves
  sleep := Machine.keeps_sleep
  around _ _ _ _ := ⟨rfl, rfl, rfl⟩

/-- **Most ordinary steps** are nothing but what goes on besides. -/
theorem Besides.keeps_act {R : World τ → World τ → Prop} [IsPreorder (World τ) R]
    (h : Besides R) (a : Attempt τ) {t : Step τ} (ht : t.isOrdinary = true)
    (hready : ∀ resources, t ≠ .makeReady resources) (hshut : t ≠ .shutdown)
    (halive : t ≠ .isAlive) : (act a t).Keeps R := by
  cases t with
  | makeReady resources => exact absurd rfl (hready resources)
  | address => exact (h.keeps_baseUrl a).map _
  | shutdown => exact absurd rfl hshut
  | isAlive => exact absurd rfl halive
  | check baseUrl timeout => exact (h.keeps_check baseUrl timeout).map _
  | await baseUrl timeout interval => exact (h.keeps_await h.sleep baseUrl timeout interval).map _
  | usePlatform name =>
    refine (Keeps.look _).bind (fun platform => ?_)
    cases platform with
    | ok platform => exact Keeps.pure _
    | error e => exact Keeps.raise e
  | advance span =>
    exact Keeps.bind (Keeps.change fun w => h.around w _ _ _) (fun _ => Keeps.pure _)
  | setVariable name value =>
    exact Keeps.bind (Keeps.change fun w => h.around w _ _ _) (fun _ => Keeps.pure _)
  | write path node =>
    refine (Keeps.look _).bind (fun (files, outcome) =>
      Keeps.bind (Keeps.change fun w => h.around w _ _ _) (fun _ => ?_))
    cases outcome with
    | ok => exact Keeps.pure _
    | error o => exact Keeps.raise _
  | remove path =>
    refine (Keeps.look _).bind (fun outcome => ?_)
    cases outcome with
    | ok files => exact Keeps.bind (Keeps.change fun w => h.around w _ _ _) (fun _ => Keeps.pure _)
    | error o => exact Keeps.raise _
  | takeCharge k => cases ht
  | giveUp k => cases ht
  | status k => cases ht
  | launch plan => cases ht
  | awaitExit k timeout interval => cases ht

/-- In an ordinary step that is no shutdown the keeper holds on. -/
theorem holdsOn_act (a : Attempt τ) {t : Step τ} (ht : t.isOrdinary = true)
    (hs : t ≠ .shutdown) : (act a t).Keeps HoldsOn := by
  by_cases hready : ∃ resources, t = .makeReady resources
  · obtain ⟨resources, rfl⟩ := hready
    exact (a.holdsOn_makeReady resources).map _
  · by_cases halive : t = .isAlive
    · subst halive
      exact Keeper.holdsOn_isAlive.map _
    · exact (besides_leaves.keeps_act a ht (not_exists.mp hready) hs halive).holdsOn

/-- **A step keeps custody**, if it is an ordinary one and no shutdown was
interrupted in one of its pauses. After a shutdown nobody is in charge, and
in any other step the keeper holds on. -/
theorem custody_step {s s' : Session τ} {t : Step τ} {ending : Ending τ StepResult} {first : Nat}
    (hstep : s.step t = some (ending, s')) (ht : t.isOrdinary = true)
    (hquiet : t = .shutdown → Quiet s.world s'.world) (hw : Custody first s.world) :
    Custody first s'.world ∧
      (t = .shutdown ∧ s'.world.kept = none ∨ ∀ k, s.world.kept = some k →
        s'.world.kept = some k) := by
  have hrun := run_act_of_step hstep
  by_cases hs : t = .shutdown
  · subst hs
    have hshut : (act s.attempt .shutdown).Undisturbed s.world
        (fun _ w' => w'.kept = none ∧ Custody first w') :=
      (s.attempt.keeper.custody_shutdown hw).bind (fun _ => Keeps.pure _)
        (fun _ w' h => .of_returned (run_pure _ w') (refl_of Passes w') h)
    obtain ⟨_, -, hkept, hcustody⟩ := hshut.returned hrun (hquiet rfl)
    exact ⟨hcustody, Or.inl ⟨rfl, hkept⟩⟩
  · have h := (holdsOn_act s.attempt ht hs).of_run hrun
    exact ⟨h.custody first hw, Or.inr h.kept⟩

/-! ## Runs -/

/-- **No shutdown of a run was interrupted** in one of its pauses. -/
def QuietShutdowns (s : Session τ) (ts : List (Step τ))
    (outs : List (Ending τ StepResult × Session τ)) : Prop :=
  ∀ (i : Nat) (w w' : World τ), ts[i]? = some .shutdown → (s.worlds outs)[i]? = some w →
    (s.worlds outs)[i + 1]? = some w' → Quiet w w'

variable {s s' : Session τ} {t : Step τ} {ts : List (Step τ)} {ending : Ending τ StepResult}
  {outs : List (Ending τ StepResult × Session τ)}

omit [Seconds τ] in
theorem QuietShutdowns.head (h : QuietShutdowns s (t :: ts) ((ending, s') :: outs)) :
    t = .shutdown → Quiet s.world s'.world :=
  fun ht => h 0 s.world s'.world (congrArg some ht) rfl rfl

omit [Seconds τ] in
theorem QuietShutdowns.tail (h : QuietShutdowns s (t :: ts) ((ending, s') :: outs)) :
    QuietShutdowns s' ts outs :=
  fun i => h (i + 1)

/-- **What holds before a run and is kept by its steps** holds in all of its
worlds. -/
theorem holds_throughout {P : World τ → Prop}
    (hstep : ∀ t ∈ ts, ∀ (s s' : Session τ) ending, s.step t = some (ending, s') →
      P s.world → P s'.world)
    (hrun : s.run ts = some outs) (hw : P s.world) : ∀ w ∈ s.worlds outs, P w := by
  induction ts generalizing s outs with
  | nil =>
    cases hrun
    intro w hmem
    rw [List.mem_singleton.mp hmem]
    exact hw
  | cons t ts ih =>
    obtain ⟨ending, s', rest, hfirst, hrest, rfl⟩ := of_run_cons hrun
    have hs' := hstep t List.mem_cons_self s s' ending hfirst hw
    intro w hmem
    rcases List.mem_cons.mp hmem with rfl | hmem
    · exact hw
    · exact ih (fun t ht => hstep t (List.mem_cons_of_mem _ ht)) hrest hs' w hmem

/-- Custody is kept by a run. -/
theorem custody_run {first : Nat} (hts : ∀ t ∈ ts, t.isOrdinary = true)
    (hrun : s.run ts = some outs) (hquiet : s.QuietShutdowns ts outs)
    (hw : Custody first s.world) : ∀ w ∈ s.worlds outs, Custody first w := by
  induction ts generalizing s outs with
  | nil =>
    cases hrun
    intro w hmem
    rw [List.mem_singleton.mp hmem]
    exact hw
  | cons t ts ih =>
    obtain ⟨ending, s', rest, hstep, hrest, rfl⟩ := of_run_cons hrun
    have hs' := (custody_step hstep (hts t List.mem_cons_self) hquiet.head hw).1
    intro w hmem
    rcases List.mem_cons.mp hmem with rfl | hmem
    · exact hw
    · exact ih (fun t ht => hts t (List.mem_cons_of_mem _ ht)) hrest hquiet.tail hs' w hmem

/-- A keeper that is in charge of another child than at first has let go of
that one in a shutdown. -/
theorem exists_shutdown_of_kept_ne {first j : Nat} {w' : World τ} {k k' : ChildId}
    (hts : ∀ t ∈ ts, t.isOrdinary = true) (hrun : s.run ts = some outs)
    (hquiet : s.QuietShutdowns ts outs) (hw : Custody first s.world)
    (hk : s.world.kept = some k) (hj : (s.worlds outs)[j]? = some w') (hk' : w'.kept = some k')
    (hne : k ≠ k') :
    ∃ m w'', m < j ∧ ts[m]? = some .shutdown ∧ (s.worlds outs)[m + 1]? = some w'' ∧
      w''.kept = none := by
  induction ts generalizing s outs j with
  | nil =>
    cases hrun
    cases j with
    | zero =>
      cases hj
      exact absurd (Option.some.inj (hk.symm.trans hk')) hne
    | succ j => cases hj
  | cons t ts ih =>
    obtain ⟨ending, s', rest, hstep, hrest, rfl⟩ := of_run_cons hrun
    cases j with
    | zero =>
      cases hj
      exact absurd (Option.some.inj (hk.symm.trans hk')) hne
    | succ j =>
      -- the step is a shutdown after which nobody is in charge, or `k` is still in charge
      obtain ⟨hs', ⟨rfl, hfree⟩ | hold⟩ :=
        custody_step hstep (hts t List.mem_cons_self) hquiet.head hw
      · exact ⟨0, s'.world, Nat.succ_pos j, rfl, rfl, hfree⟩
      · obtain ⟨m, w'', hm, hshut, hworld, hfree⟩ :=
          ih (fun t ht => hts t (List.mem_cons_of_mem _ ht)) hrest hquiet.tail hs' (hold k hk) hj
        exact ⟨m + 1, w'', Nat.succ_lt_succ hm, hshut, hworld, hfree⟩

/-- Between two worlds of a run in which the keeper is in charge of different
children there was a shutdown. -/
theorem exists_shutdown_between {first i j : Nat} {w w' : World τ} {k k' : ChildId}
    (hts : ∀ t ∈ ts, t.isOrdinary = true) (hrun : s.run ts = some outs)
    (hquiet : s.QuietShutdowns ts outs) (hw : Custody first s.world) (hij : i ≤ j)
    (hi : (s.worlds outs)[i]? = some w) (hj : (s.worlds outs)[j]? = some w')
    (hk : w.kept = some k) (hk' : w'.kept = some k') (hne : k ≠ k') :
    ∃ m w'', i ≤ m ∧ m < j ∧ ts[m]? = some .shutdown ∧ (s.worlds outs)[m + 1]? = some w'' ∧
      w''.kept = none := by
  induction i generalizing s ts outs j with
  | zero =>
    cases hi
    obtain ⟨m, w'', hm⟩ := exists_shutdown_of_kept_ne hts hrun hquiet hw hk hj hk' hne
    exact ⟨m, w'', Nat.zero_le m, hm⟩
  | succ i ih =>
    obtain ⟨j, rfl⟩ := Nat.exists_eq_add_of_le' (Nat.le_trans (Nat.le_add_left 1 i) hij)
    cases ts with
    | nil =>
      cases hrun
      cases hi
    | cons t ts =>
      obtain ⟨ending, s', rest, hstep, hrest, rfl⟩ := of_run_cons hrun
      have hs' := (custody_step hstep (hts t List.mem_cons_self) hquiet.head hw).1
      obtain ⟨m, w'', him, hmj, hshut, hworld, hfree⟩ :=
        ih (fun t ht => hts t (List.mem_cons_of_mem _ ht)) hrest hquiet.tail hs'
          (Nat.le_of_succ_le_succ hij) hi hj
      exact ⟨m + 1, w'', Nat.succ_le_succ him, Nat.succ_lt_succ hmj, hshut, hworld, hfree⟩

/-- **No child is ever out of custody.** In every run of ordinary steps from a
fresh session, in which no pause of a shutdown was interrupted, each child
that was started has a status or is the one in charge, before the first step
and after every step. And if the keeper is in charge of one child, and later
of another one, then there was a shutdown in between after which it was in
charge of none. -/
theorem run_keeps_children_in_custody (s : Session τ) (ts : List (Step τ))
    (outs : List (Ending τ StepResult × Session τ)) (hfree : s.world.kept = none)
    (hnew : s.world.children = []) (hts : ∀ t ∈ ts, t.isOrdinary = true)
    (hrun : s.run ts = some outs) (hquiet : s.QuietShutdowns ts outs) :
    (∀ w ∈ s.worlds outs, ∀ k c, w.child? k = some c →
      c.status.isSome = true ∨ w.kept = some k) ∧
    ∀ (i j : Nat) (w w' : World τ) (k k' : ChildId), i ≤ j →
      (s.worlds outs)[i]? = some w → (s.worlds outs)[j]? = some w' →
      w.kept = some k → w'.kept = some k' → k ≠ k' →
      ∃ m w'', i ≤ m ∧ m < j ∧ ts[m]? = some .shutdown ∧
        (s.worlds outs)[m + 1]? = some w'' ∧ w''.kept = none := by
  have hstart : Custody 0 s.world := by
    refine ⟨fun k c _ hc => ?_, fun k hk => ?_⟩
    · rw [World.child?, hnew] at hc
      cases hc
    · rw [hfree] at hk
      cases hk
  constructor
  · intro w hmem k c hc
    exact (custody_run hts hrun hquiet hstart w hmem).reaped_or_kept k c (Nat.zero_le k) hc
  · intro i j w w' k k' hij hi hj hk hk' hne
    exact exists_shutdown_between hts hrun hquiet hstart hij hi hj hk hk' hne

/-- A child is adopted, stopped in a shutdown and succeeded by another one: the
slot is empty in between. -/
theorem run_keeps_children_in_custody_of_succession :
    let w : World Rat := { withRuntime with
      scripts := [{ ChildScript.plain with onTerm := .exits 0 143 }, .plain]
      probes := [503, 503, 200, 503, 503, 200].map fun code => ⟨none, .status code⟩ }
    let s : Session Rat := ⟨.usual .linux (some "http://127.0.0.1:4567"), w⟩
    let ts : List (Step Rat) := [.makeReady none, .shutdown, .makeReady none]
    s.world.kept = none ∧ s.world.children = [] ∧ (∀ t ∈ ts, t.isOrdinary = true) ∧
      ∃ outs, s.run ts = some outs ∧ s.QuietShutdowns ts outs ∧
        (s.worlds outs).map World.kept = [none, some 0, none, some 1] ∧
        (∀ w ∈ s.worlds outs, ∀ k c, w.child? k = some c →
          c.status.isSome = true ∨ w.kept = some k) ∧
        ∃ m w'', 1 ≤ m ∧ m < 3 ∧ ts[m]? = some .shutdown ∧
          (s.worlds outs)[m + 1]? = some w'' ∧ w''.kept = none := by
  intro w s ts
  have hts : ∀ t ∈ ts, t.isOrdinary = true := by
    simp only [ts, List.forall_mem_cons]
    exact ⟨rfl, rfl, rfl, fun _ h => absurd h List.not_mem_nil⟩
  have hseen : (s.run ts).map (fun outs => ((s.worlds outs).map World.kept,
      (s.worlds outs).all fun w => w.lastInterruption ≤ w.pauses))
      = some ([none, some 0, none, some 1], true) := by
    simp only [ts, run, step, act, Attempt.makeReady, Attempt.discoverAndStart, Attempt.start,
      Attempt.adopt, HealthCheck.await, Keeper.shutdown, Keeper.stop, Keeper.awaitExit,
      loop_eq_unrolled 1]
    decide +kernel
  obtain ⟨outs, hrun, hseen⟩ := Option.map_eq_some_iff.mp hseen
  obtain ⟨hkept, hcalm⟩ := Prod.mk.inj hseen
  have hquiet : s.QuietShutdowns ts outs := by
    intro i w₁ w₂ _ h₁ _
    have hlast := List.all_eq_true.mp hcalm w₁ (List.mem_of_getElem? h₁)
    exact quiet_of_lastInterruption_le (of_decide_eq_true hlast)
  have hat : ∀ (i : Nat) (kept : Option ChildId), [none, some 0, none, some 1][i]? = some kept →
      ∃ w, (s.worlds outs)[i]? = some w ∧ w.kept = kept := by
    intro i kept hi
    rw [← hkept, List.getElem?_map] at hi
    exact Option.map_eq_some_iff.mp hi
  obtain ⟨w₁, h₁, hkept₁⟩ := hat 1 (some 0) rfl
  obtain ⟨w₃, h₃, hkept₃⟩ := hat 3 (some 1) rfl
  obtain ⟨hcustody, hbetween⟩ := run_keeps_children_in_custody s ts outs rfl rfl hts hrun hquiet
  exact ⟨rfl, rfl, hts, outs, hrun, hquiet, hkept, hcustody,
    hbetween 1 3 w₁ w₃ 0 1 (by decide) h₁ h₃ hkept₁ hkept₃ (by decide)⟩

end Session

end LocalServer
