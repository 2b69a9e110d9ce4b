import LocalServer.Proofs.Interruption

/-!
# What the journal tells of the children

The journal holds every start and every call with its time, and what the
children will do is settled beforehand. So the journal tells what has become
of each child: it is born when it is started, and each call leaves it as the
call leaves it (`World.retell`). A child's status at any moment is thereby
known from what was seen up to that moment, and it can be said of a signal or
a kill whether it came while the child had no status (`World.Spares`).

`World.Careful` is what the parts of a run keep to: what has been seen between
two worlds tells what has become of the children, the signals and kills among
it all went to one child, and each of them found it without a status.
-/

namespace LocalServer

open Act

variable {τ : Type}

/-- **The calls that are forced on a child**: signals and kills. -/
def Call.isForceful : Call → Bool
  | .signal _ | .kill => true
  | .poll | .wait => false

variable [Seconds τ]

/-- **What a call makes of a child** at a time. -/
def Child.answering (call : Call) (now : τ) (c : Child τ) : Child τ :=
  match call with
  | .poll => c.reap now
  | .signal _ => c.asked now
  | .kill => if c.goneOnKill = true then c else c.struck now
  | .wait => (c.awaited now).2

namespace World

/-! ## Retelling -/

/-- **What an event makes of a child**: a start brings it into the world, and
a call on it changes it. -/
def retold (scripts : List (ChildScript τ)) (k : ChildId) (o : Option (Child τ)) :
    τ × Event τ → Option (Child τ)
  | (now, .spawn _ _ _ (some j)) =>
    if j = k then some (.born ((scripts[k]?).getD .plain) k now) else o
  | (now, .call j _ call) => if j = k then o.map (Child.answering call now) else o
  | _ => o

/-- **What becomes of a child** by all that is seen. -/
def retell (scripts : List (ChildScript τ)) (k : ChildId) (o : Option (Child τ))
    (seen : List (τ × Event τ)) : Option (Child τ) :=
  seen.foldl (retold scripts k) o

/-- **No signal and no kill hits a child that has a status**: whenever one is
seen, the child was there by what was seen before, and had no status. -/
def Spares (scripts : List (ChildScript τ)) (start : ChildId → Option (Child τ))
    (seen : List (τ × Event τ)) : Prop :=
  ∀ (i : Nat) (now : τ) (k : ChildId) (pid : Int) (call : Call),
    seen[i]? = some (now, .call k pid call) → call.isForceful = true →
      ∃ c, retell scripts k (start k) (seen.take i) = some c ∧ c.status = none

omit [Seconds τ] in
/-- **The signals and kills** that a child has got, in order. -/
def forcedOn (k : ChildId) (seen : List (τ × Event τ)) : List Call :=
  seen.filterMap fun e =>
    match e.2 with
    | .call j _ call => if j = k ∧ call.isForceful = true then some call else none
    | _ => none

variable {scripts : List (ChildScript τ)} {k : ChildId} {o : Option (Child τ)}
  {seen seen' : List (τ × Event τ)} {start : ChildId → Option (Child τ)}

@[simp] theorem retell_nil : retell scripts k o [] = o := rfl

@[simp] theorem retell_append :
    retell scripts k o (seen ++ seen') = retell scripts k (retell scripts k o seen) seen' :=
  List.foldl_append

theorem retell_singleton (e : τ × Event τ) : retell scripts k o [e] = retold scripts k o e := rfl

omit [Seconds τ] in
@[simp] theorem forcedOn_append :
    forcedOn k (seen ++ seen') = forcedOn k seen ++ forcedOn k seen' :=
  List.filterMap_append

/-- What is no dealing makes nothing of a child. -/
theorem retold_of_not_dealing {e : τ × Event τ} (he : e.2.isDealing = false) :
    retold scripts k o e = o := by
  obtain ⟨now, e⟩ := e
  cases e <;> first | rfl | cases he

theorem retell_of_not_dealing (h : ∀ e ∈ seen, e.2.isDealing = false) :
    retell scripts k o seen = o := by
  induction seen with
  | nil => rfl
  | cons e seen ih =>
    rw [retell, List.foldl_cons, retold_of_not_dealing (h e List.mem_cons_self)]
    exact ih fun e he => h e (List.mem_cons_of_mem _ he)

/-- A child that is there does not vanish. -/
theorem isSome_retell (h : o.isSome = true) : (retell scripts k o seen).isSome = true := by
  induction seen generalizing o with
  | nil => exact h
  | cons e seen ih =>
    refine ih ?_
    unfold retold
    split
    · split
      · rfl
      · exact h
    · split
      · rw [Option.isSome_map]
        exact h
      · exact h
    · exact h

omit [Seconds τ] in
theorem forcedOn_of_not_dealing (h : ∀ e ∈ seen, e.2.isDealing = false) :
    forcedOn k seen = [] := by
  refine List.filterMap_eq_nil_iff.mpr (fun e he => ?_)
  have hd := h e he
  split
  · next hcall =>
    rw [hcall] at hd
    cases hd
  · rfl

theorem spares_of_not_dealing (h : ∀ e ∈ seen, e.2.isDealing = false) :
    Spares scripts start seen := by
  intro i now k pid call hi _
  have hd := h _ (List.mem_of_getElem? hi)
  cases hd

/-- What spares the children, and then what spares them as they are by then,
spares them as a whole. -/
theorem Spares.append (h : Spares scripts start seen)
    (h' : Spares scripts (fun k => retell scripts k (start k) seen) seen') :
    Spares scripts start (seen ++ seen') := by
  intro i now k pid call hi hf
  -- the `i`-th event was seen in the first part or in the second one
  rcases Nat.lt_or_ge i seen.length with hlt | hge
  · rw [List.getElem?_append_left hlt] at hi
    rw [List.take_append_of_le_length (Nat.le_of_lt hlt)]
    exact h i now k pid call hi hf
  · rw [List.getElem?_append_right hge] at hi
    obtain ⟨c, hc, hs⟩ := h' _ now k pid call hi hf
    refine ⟨c, ?_, hs⟩
    rw [List.take_append, List.take_of_length_le hge, retell_append]
    exact hc

/-- Whoever has got a signal or a kill was there. -/
theorem Spares.isSome_of_forcedOn (h : Spares scripts start seen) (hf : forcedOn k seen ≠ []) :
    (retell scripts k (start k) seen).isSome = true := by
  obtain ⟨call, hcall⟩ := List.exists_mem_of_ne_nil _ hf
  obtain ⟨⟨now, e⟩, he, hsome⟩ := List.mem_filterMap.mp hcall
  obtain ⟨i, hi⟩ := List.mem_iff_getElem?.mp he
  split at hsome
  · next _ j pid call' he =>
    split at hsome
    · next hj =>
      rw [show e = .call j pid call' from he] at hi
      -- by then the child was there, and so it still is
      obtain ⟨c, hc, -⟩ := h i now j pid call' hi hj.2
      rw [← hj.1, ← List.take_append_drop i seen, retell_append, hc]
      exact isSome_retell rfl
    · cases hsome
  · cases hsome

/-! ## Careful dealings -/

/-- **What has been seen between two worlds tells what has become of the
children.** -/
structure Tells (w w' : World τ) (seen : List (τ × Event τ)) : Prop where
  /-- It is what the journal has gained. -/
  timeline : w'.timeline = w.timeline ++ seen
  /-- What the children will do is what it was. -/
  scripts : w'.scripts = w.scripts
  /-- No place of a child is given up. -/
  grows : w.children.length ≤ w'.children.length
  /-- The children are what has become of them. -/
  child? : ∀ k, w'.child? k = retell w.scripts k (w.child? k) seen

/-- **The children were dealt with carefully** between two worlds: there were
no other signals and kills than the given ones, in that order and all of them
on the `k`-th child, and each found it without a status. -/
def Careful (k : ChildId) (allowed : List Call) (w w' : World τ) : Prop :=
  ∃ seen, Tells w w' seen ∧ Spares w.scripts w.child? seen ∧
    ∀ j, (forcedOn j seen).Sublist (if j = k then allowed else [])

variable {w w₁ w' : World τ} {allowed allowed' : List Call}

theorem Tells.trans (h : Tells w w₁ seen) (h' : Tells w₁ w' seen') :
    Tells w w' (seen ++ seen') where
  timeline := by rw [h'.timeline, h.timeline, List.append_assoc]
  scripts := h'.scripts.trans h.scripts
  grows := h.grows.trans h'.grows
  child? k := by rw [h'.child?, h.scripts, h.child?, retell_append]

theorem Careful.trans (h : Careful k allowed w w₁) (h' : Careful k allowed' w₁ w') :
    Careful k (allowed ++ allowed') w w' := by
  obtain ⟨seen, ht, hs, hf⟩ := h
  obtain ⟨seen', ht', hs', hf'⟩ := h'
  refine ⟨seen ++ seen', ht.trans ht', hs.append ?_, fun j => ?_⟩
  · rw [ht.scripts, show w₁.child? = _ from funext ht.child?] at hs'
    exact hs'
  · have hsub := (hf j).append (hf' j)
    rw [forcedOn_append]
    split
    · next hj => rwa [if_pos hj, if_pos hj] at hsub
    · next hj => rwa [if_neg hj, if_neg hj] at hsub

/-- More may be allowed. -/
theorem Careful.mono (h : Careful k allowed w w') (hsub : allowed.Sublist allowed') :
    Careful k allowed' w w' := by
  obtain ⟨seen, ht, hs, hf⟩ := h
  refine ⟨seen, ht, hs, fun j => (hf j).trans ?_⟩
  split
  · exact hsub
  · exact List.Sublist.slnil

/-- A child that is there does not vanish. -/
theorem Careful.child?_of_some {c : Child τ} {j : ChildId} (h : Careful k allowed w w')
    (hc : w.child? j = some c) : ∃ c', w'.child? j = some c' := by
  obtain ⟨seen, ht, -⟩ := h
  rw [ht.child?, hc]
  exact Option.isSome_iff_exists.mp (isSome_retell rfl)

/-- Where nothing is allowed, it does not matter on which child. -/
theorem Careful.any (h : Careful k [] w w') (j : ChildId) : Careful j [] w w' := by
  obtain ⟨seen, ht, hs, hf⟩ := h
  exact ⟨seen, ht, hs, fun i => by rw [ite_self, ← ite_self (c := i = k) []]; exact hf i⟩

/-- What is no dealing is careful. -/
theorem Careful.of_not_dealing (ht : w'.timeline = w.timeline ++ seen)
    (hscripts : w'.scripts = w.scripts) (hc : w'.children = w.children)
    (hd : ∀ e ∈ seen, e.2.isDealing = false) : Careful k [] w w' := by
  refine ⟨seen, ⟨ht, hscripts, by rw [hc], fun j => ?_⟩, spares_of_not_dealing hd, fun j => ?_⟩
  · rw [retell_of_not_dealing hd, child?_congr hc]
  · rw [forcedOn_of_not_dealing hd]
    exact List.nil_sublist _

/-- Where nothing has been seen and the children are the same, all was
careful. -/
theorem Careful.of_eq (ht : w'.timeline = w.timeline) (hscripts : w'.scripts = w.scripts)
    (hc : w'.children = w.children) : Careful k [] w w' :=
  .of_not_dealing (by rw [ht, List.append_nil]) hscripts hc fun _ he => absurd he List.not_mem_nil

instance : IsPreorder (World τ) (Careful k []) where
  refl _ := .of_eq rfl rfl rfl
  trans _ _ _ h h' := h.trans h'

/-- Before what is careful there may be what needs no leave. -/
theorem Careful.after (h : Careful k [] w w₁) (h' : Careful k allowed w₁ w') :
    Careful k allowed w w' :=
  h.trans h'

/-- And after it. -/
theorem Careful.before (h : Careful k allowed w w₁) (h' : Careful k [] w₁ w') :
    Careful k allowed w w' := by
  have h'' := h.trans h'
  rwa [List.append_nil] at h''

/-- The world in which a child has answered a call. -/
def answered (w : World τ) (k : ChildId) (call : Call) : World τ :=
  match w.child? k with
  | some c => (w.called k call).setChild k (c.answering call w.clock)
  | none => w.called k call

theorem answered_of_child? {c : Child τ} (hc : w.child? k = some c) (call : Call) :
    w.answered k call = (w.called k call).setChild k (c.answering call w.clock) := by
  rw [answered, hc]

theorem answered_of_none (hc : w.child? k = none) (call : Call) :
    w.answered k call = w.called k call := by
  rw [answered, hc]

theorem child?_answered (w : World τ) (k j : ChildId) (call : Call) :
    (w.answered k call).child? j
      = if k = j then (w.child? j).map (Child.answering call w.clock) else w.child? j := by
  cases hc : w.child? k with
  | none =>
    rw [answered_of_none hc]
    split
    · next hj =>
      subst hj
      rw [hc]
      exact hc
    · rfl
  | some c =>
    have hcalled : (w.called k call).child? k = some c := hc
    rw [answered_of_child? hc]
    split
    · next hj =>
      subst hj
      rw [child?_setChild hcalled, hc, Option.map_some]
    · next hj => exact child?_setChild_of_ne (Ne.symm hj) _ _

/-- **A call is careful** if it is not forced on the child, or the child has
no status. -/
theorem careful_answered (call : Call) (hopen : call.isForceful = true → w.Unreaped k) :
    Careful k (if call.isForceful = true then [call] else []) w (w.answered k call) := by
  have htells : Tells w (w.answered k call) [(w.clock, .call k (w.pid k) call)] := by
    refine ⟨?_, ?_, ?_, fun j => child?_answered w k j call⟩
    all_goals
      unfold answered
      split
    · exact timeline_record w _
    · exact timeline_record w _
    · rfl
    · rfl
    · exact Nat.le_of_eq List.length_set.symm
    · exact Nat.le_refl _
  refine ⟨_, htells, fun i now j pid call' hi hf => ?_, fun j => ?_⟩
  · -- there is one event only, and before it nothing was seen
    match i, hi with
    | 0, hi =>
      cases hi
      exact hopen hf
    | i + 1, hi => cases hi
  · rw [forcedOn, List.filterMap_cons, List.filterMap_nil]
    by_cases hj : j = k
    · subst hj
      cases hf : call.isForceful <;> simp [hf]
    · simp [hj, Ne.symm hj]

end World

end LocalServer
