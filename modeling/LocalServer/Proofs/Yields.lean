import LocalServer.World.Act
import Mathlib.Order.Defs.Unbundled

/-!
# What actions come to

An action need not end, so what is said of it has two parts. `Act.Yields`
says what holds *whenever* it ends: one condition on the value that it
returns and the world then, and one on the fault that it raises. `Act.Ends`
says *that* it ends. Both follow the way an action is put together, and the
rules below are one for each way.

A loop has an invariant: what holds before the first round, and is kept by
each round that goes on, holds when the loop ends (`Act.Yields.loop`). It
ends if a natural number goes down from round to round
(`Act.Ends.loop`). What it comes to in a given world can be computed as soon as
its first rounds are written out (`Act.unrolled`).

`Act.Keeps` is for relations between the world before and the world after
which no step of an action breaks, whether it returns or not.
-/

namespace LocalServer.Act

variable {τ : Type} {α β : Type}

/-! ## Whenever an action ends -/

/-- **What an action yields**: whenever it ends, `Q` holds of the value that
it returns and the world then, or `E` of the fault that it raises and the
world then. -/
def Yields (x : Act τ α) (w : World τ) (Q : α → World τ → Prop)
    (E : Fault τ → World τ → Prop) : Prop :=
  ∀ ending w', x.run w = some (ending, w') →
    match ending with
    | .returned a => Q a w'
    | .raised e => E e w'

section Rules

variable {x : Act τ α} {w w' : World τ} {Q Q' : α → World τ → Prop}
  {E E' : Fault τ → World τ → Prop}

/-- An action that is known to return yields what holds then. -/
theorem yields_of_returned {a : α} (h : x.run w = some (.returned a, w')) :
    x.Yields w Q E ↔ Q a w' := by
  constructor
  · intro hx
    exact hx _ _ h
  · intro hq ending w'' hr
    obtain ⟨rfl, rfl⟩ := Prod.mk.inj (Option.some.inj (hr.symm.trans h))
    exact hq

/-- An action that is known to raise a fault yields what holds then. -/
theorem yields_of_raised {e : Fault τ} (h : x.run w = some (.raised e, w')) :
    x.Yields w Q E ↔ E e w' := by
  constructor
  · intro hx
    exact hx _ _ h
  · intro he ending w'' hr
    obtain ⟨rfl, rfl⟩ := Prod.mk.inj (Option.some.inj (hr.symm.trans h))
    exact he

/-- An action that does not end yields anything. -/
theorem yields_of_none (h : x.run w = none) : x.Yields w Q E :=
  fun _ _ hr => by rw [h] at hr; cases hr

/-- Actions that come to the same yield the same. -/
theorem yields_congr {y : Act τ α} {w₁ : World τ} (h : x.run w = y.run w₁) :
    x.Yields w Q E ↔ y.Yields w₁ Q E := by
  rw [Yields, h, Yields]

/-- What an action yields may be weakened. -/
theorem Yields.mono (h : x.Yields w Q E) (hQ : ∀ a w', Q a w' → Q' a w')
    (hE : ∀ e w', E e w' → E' e w') : x.Yields w Q' E' := by
  intro ending w' hr
  have hx := h ending w' hr
  cases ending with
  | returned a => exact hQ a w' hx
  | raised e => exact hE e w' hx

/-- Two things that an action yields hold together. -/
theorem Yields.and (h : x.Yields w Q E) (h' : x.Yields w Q' E') :
    x.Yields w (fun a w' => Q a w' ∧ Q' a w') (fun e w' => E e w' ∧ E' e w') := by
  intro ending w' hr
  have hx := h ending w' hr
  have hx' := h' ending w' hr
  cases ending with
  | returned a => exact ⟨hx, hx'⟩
  | raised e => exact ⟨hx, hx'⟩

/-- What an action yields in either way is so however it ends. -/
theorem Yields.of_run {P : World τ → Prop} {ending : Ending τ α}
    (h : x.Yields w (fun _ => P) (fun _ => P)) (hrun : x.run w = some (ending, w')) : P w' := by
  have hx := h ending w' hrun
  cases ending with
  | returned a => exact hx
  | raised e => exact hx

@[simp] theorem yields_pure (a : α) : (pure a : Act τ α).Yields w Q E ↔ Q a w :=
  yields_of_returned (run_pure a w)

@[simp] theorem yields_look (f : World τ → α) : (look f).Yields w Q E ↔ Q (f w) w :=
  yields_of_returned (run_look f w)

@[simp] theorem yields_raise (e : Fault τ) : (raise e : Act τ α).Yields w Q E ↔ E e w :=
  yields_of_raised (run_raise e w)

@[simp] theorem yields_change {f : World τ → World τ} {Q : Unit → World τ → Prop} :
    (change f).Yields w Q E ↔ Q () (f w) :=
  yields_of_returned (run_change f w)

@[simp] theorem yields_note {n : Notice τ} {Q : Unit → World τ → Prop} :
    (note n).Yields w Q E ↔ Q () (w.record (.notice n)) :=
  yields_of_returned (run_note n w)

/-- A lookup yields what has come out of it, after its notices. -/
theorem yields_consult (f : Finding τ α) :
    (consult f).Yields w Q E ↔ match f.outcome with
      | .ok a => Q a (w.told f.notices)
      | .error e => E e (w.told f.notices) := by
  cases h : f.outcome with
  | ok a => exact yields_of_returned (by simp only [run, consult, h])
  | error e => exact yields_of_raised (by simp only [run, consult, h])

/-- **One action after the other** yields what the second does where the
first returns. -/
@[simp] theorem yields_bind {f : α → Act τ β} {Q : β → World τ → Prop} :
    (x >>= f).Yields w Q E ↔ x.Yields w (fun a w' => (f a).Yields w' Q E) E := by
  rcases h : x.run w with _ | ⟨a | e, w'⟩
  · exact iff_of_true (yields_of_none (run_bind_of_none h f)) (yields_of_none h)
  · rw [yields_of_returned h, Yields, run_bind_of_returned h]
    rfl
  · rw [yields_of_raised h, yields_of_raised (run_bind_of_raised h f)]

@[simp] theorem yields_map {f : α → β} {Q : β → World τ → Prop} :
    (f <$> x).Yields w Q E ↔ x.Yields w (fun a w' => Q (f a) w') E := by
  rw [← bind_pure_comp, yields_bind]
  simp only [yields_pure]

/-- **A rescue** yields what the way on does, where there is one. -/
theorem yields_rescue {handler : Fault τ → Option (Act τ α)} :
    (x.rescue handler).Yields w Q E ↔
      x.Yields w Q (fun e w' => match handler e with
        | some y => y.Yields w' Q E
        | none => E e w') := by
  rcases h : x.run w with _ | ⟨a | e, w'⟩
  · refine iff_of_true (yields_of_none ?_) (yields_of_none h)
    simp only [run] at h
    simp only [run, rescue, h]
  · rw [yields_of_returned h, yields_of_returned (run_rescue_of_returned h handler)]
  · rw [yields_of_raised h]
    cases he : handler e with
    | some y => rw [Yields, run_rescue_of_raised h he]; rfl
    | none => rw [yields_of_raised (run_rescue_of_raised_of_none h he)]

/-- **A clean-up after a fault** comes before the fault goes on. -/
theorem yields_onFault {kind : Fault τ → Bool} {cleanUp : Act τ Unit} :
    (x.onFault kind cleanUp).Yields w Q E ↔
      x.Yields w Q (fun e w' =>
        if kind e = true then cleanUp.Yields w' (fun _ => E e) E else E e w') := by
  rw [onFault, yields_rescue]
  refine iff_of_eq (congrArg _ (funext fun e => funext fun w' => ?_))
  split
  · next h =>
    split at h
    · next hk => rw [if_pos hk, ← Option.some.inj h]; simp only [yields_bind, yields_raise]
    · cases h
  · next h =>
    split at h
    · cases h
    · next hk => rw [if_neg hk]

/-- **A clean-up in any case** is done after a value as well as after a
fault. -/
theorem yields_ensuring {cleanUp : Act τ Unit} :
    (x.ensuring cleanUp).Yields w Q E ↔
      x.Yields w (fun a w' => cleanUp.Yields w' (fun _ => Q a) E)
        (fun e w' => cleanUp.Yields w' (fun _ => E e) E) := by
  simp only [ensuring, yields_bind, yields_onFault, if_true, yields_pure]

/-- **A clean-up is never left out**: an action with a clean-up that ends is
the action and then the clean-up, however the two of them end. -/
theorem exists_of_run_ensuring {cleanUp : Act τ Unit} {ending : Ending τ α}
    (h : (x.ensuring cleanUp).run w = some (ending, w')) :
    ∃ ending₁ w₁ ending₂, x.run w = some (ending₁, w₁) ∧
      cleanUp.run w₁ = some (ending₂, w') := by
  have hx : (x.ensuring cleanUp).Yields w
      (fun _ w' => ∃ ending₁ w₁ ending₂, x.run w = some (ending₁, w₁) ∧
        cleanUp.run w₁ = some (ending₂, w'))
      (fun _ w' => ∃ ending₁ w₁ ending₂, x.run w = some (ending₁, w₁) ∧
        cleanUp.run w₁ = some (ending₂, w')) := by
    refine yields_ensuring.mpr (fun ending₁ w₁ h₁ => ?_)
    cases ending₁ with
    | returned a =>
      intro ending₂ w₂ h₂
      cases ending₂ with
      | returned _ => exact ⟨_, w₁, _, h₁, h₂⟩
      | raised e => exact ⟨_, w₁, _, h₁, h₂⟩
    | raised e =>
      intro ending₂ w₂ h₂
      cases ending₂ with
      | returned _ => exact ⟨_, w₁, _, h₁, h₂⟩
      | raised e' => exact ⟨_, w₁, _, h₁, h₂⟩
  exact hx.of_run h

/-- **The invariant of a loop.** What holds before the first round, and is
kept by each round that goes on, holds before every round; so the loop
yields what a round that does not go on yields under it. -/
theorem Yields.loop {body : Act τ (Option α)} (inv : World τ → Prop) (hw : inv w)
    (hround : ∀ w, inv w →
      body.Yields w (fun o w' => o.elim (inv w') (fun a => Q a w')) E) :
    (loop body).Yields w Q E := by
  intro ending w' hr
  refine loopIn.partial_correctness body
    (fun w r => inv w → match r.1 with
      | .returned a => Q a r.2
      | .raised e => E e r.2) ?_ w (ending, w') hr hw
  -- one more round before the rounds of which it is known already
  intro rounds ih w r hstep hinv
  obtain ⟨⟨outcome, w₁⟩, hbody, hrest⟩ := Option.bind_eq_some_iff.mp hstep
  have hx := hround w hinv outcome w₁ hbody
  cases outcome with
  | raised e =>
    cases Option.some.inj hrest
    exact hx
  | returned o =>
    cases o with
    | none => exact ih w₁ r hrest hx
    | some a =>
      cases Option.some.inj hrest
      exact hx

end Rules

/-! ## The first rounds of a loop -/

/-- **A loop with its first rounds written out.** A loop is a fixed point, of which
nothing can be computed; the rounds that are written out can. -/
def unrolled (body : Act τ (Option α)) : Nat → Act τ α
  | 0 => loop body
  | rounds + 1 => body >>= fun o => o.elim (unrolled body rounds) pure

/-- However many rounds are written out, the loop is the same. -/
theorem loop_eq_unrolled (rounds : Nat) (body : Act τ (Option α)) :
    loop body = unrolled body rounds := by
  induction rounds with
  | zero => rfl
  | succ rounds ih =>
    funext w
    rw [unrolled, ← ih]
    exact run_loop body w

/-! ## That an action ends -/

/-- **An action ends** in a world: it returns or raises a fault. -/
def Ends (x : Act τ α) (w : World τ) : Prop :=
  (x.run w).isSome = true

instance (x : Act τ α) (w : World τ) : Decidable (x.Ends w) :=
  inferInstanceAs (Decidable (_ = true))

section Ends

variable {x : Act τ α} {w w' : World τ} {Q : α → World τ → Prop}
  {E : Fault τ → World τ → Prop}

theorem ends_of_run {r : Ending τ α × World τ} (h : x.run w = some r) : x.Ends w := by
  rw [Ends, h, Option.isSome_some]

/-- An action that ends comes to what it yields. -/
theorem Ends.exists_run (h : x.Ends w) : ∃ ending w', x.run w = some (ending, w') := by
  obtain ⟨⟨ending, w'⟩, hr⟩ := Option.isSome_iff_exists.mp h
  exact ⟨ending, w', hr⟩

@[simp] theorem ends_pure (a : α) : (pure a : Act τ α).Ends w := rfl

@[simp] theorem ends_look (f : World τ → α) : (look f).Ends w := rfl

@[simp] theorem ends_raise (e : Fault τ) : (raise e : Act τ α).Ends w := rfl

@[simp] theorem ends_change (f : World τ → World τ) : (change f).Ends w := rfl

@[simp] theorem ends_note (n : Notice τ) : (note n).Ends w := rfl

theorem ends_consult (f : Finding τ α) : (consult f).Ends w := by
  simp only [Ends, run, consult]
  split <;> rfl

/-- One action after the other ends if both do. -/
theorem ends_bind {f : α → Act τ β} :
    (x >>= f).Ends w ↔ x.Ends w ∧ x.Yields w (fun a w' => (f a).Ends w') (fun _ _ => True) := by
  rcases h : x.run w with _ | ⟨a | e, w'⟩
  · simp only [Ends, run_bind_of_none h, h, Option.isSome_none, Bool.false_eq_true, false_and]
  · rw [yields_of_returned h, Ends, run_bind_of_returned h, and_iff_right (ends_of_run h)]
    rfl
  · rw [yields_of_raised h]
    exact iff_of_true (ends_of_run (run_bind_of_raised h f)) ⟨ends_of_run h, trivial⟩

/-- Actions that always end do so one after the other. -/
theorem Ends.bind {f : α → Act τ β} (hx : x.Ends w) (hf : ∀ a w', (f a).Ends w') :
    (x >>= f).Ends w :=
  ends_bind.mpr ⟨hx, fun ending w' _ => by
    cases ending with
    | returned a => exact hf a w'
    | raised e => trivial⟩

theorem Ends.map (f : α → β) (hx : x.Ends w) : (f <$> x).Ends w := by
  rw [← bind_pure_comp]
  exact hx.bind fun _ _ => ends_pure _

/-- A rescue ends if the action does and every way on that is taken. -/
theorem ends_rescue {handler : Fault τ → Option (Act τ α)} (hx : x.Ends w)
    (hy : ∀ e y, handler e = some y → ∀ w', y.Ends w') : (x.rescue handler).Ends w := by
  obtain ⟨ending, w', h⟩ := hx.exists_run
  cases ending with
  | returned a => exact ends_of_run (run_rescue_of_returned h handler)
  | raised e =>
    cases he : handler e with
    | none => exact ends_of_run (run_rescue_of_raised_of_none h he)
    | some y =>
      rw [Ends, run_rescue_of_raised h he]
      exact hy e y he w'

/-- A clean-up after a fault ends if both actions do. -/
theorem ends_onFault {kind : Fault τ → Bool} {cleanUp : Act τ Unit} (hx : x.Ends w)
    (hc : ∀ w', cleanUp.Ends w') : (x.onFault kind cleanUp).Ends w := by
  refine ends_rescue hx (fun e y he w' => ?_)
  split at he
  · rw [← Option.some.inj he]
    exact (hc w').bind (fun _ _ => ends_raise e)
  · cases he

/-- **A loop ends** if a natural number goes down from each round that goes
on to the next. -/
theorem Ends.loop {body : Act τ (Option α)} (inv : World τ → Prop) (left : World τ → Nat)
    (hw : inv w) (hends : ∀ w, inv w → body.Ends w)
    (hround : ∀ w, inv w →
      body.Yields w (fun o w' => o = none → inv w' ∧ left w' < left w) (fun _ _ => True)) :
    (loop body).Ends w := by
  induction h : left w using Nat.strongRecOn generalizing w with
  | ind n ih =>
    subst h
    rw [Ends, run_loop]
    refine ends_bind.mpr ⟨hends w hw, (hround w hw).mono (fun o w' ho => ?_) (fun _ _ _ => trivial)⟩
    cases o with
    | none => exact ih (left w') (ho rfl).2 (ho rfl).1 rfl
    | some a => exact ends_pure a

end Ends

/-! ## Relations that no step breaks -/

/-- **What an action keeps**: a relation between the world before and the
world after, whether the action returns or raises a fault. -/
def Keeps (R : World τ → World τ → Prop) (x : Act τ α) : Prop :=
  ∀ w, x.Yields w (fun _ => R w) (fun _ => R w)

namespace Keeps

variable {R : World τ → World τ → Prop} [IsPreorder (World τ) R] {x : Act τ α}

omit [IsPreorder (World τ) R] in
/-- What an action keeps holds however it ends. -/
theorem of_run {w w' : World τ} {ending : Ending τ α} (hx : x.Keeps R)
    (h : x.run w = some (ending, w')) : R w w' :=
  (hx w).of_run h

omit [IsPreorder (World τ) R] in
/-- What keeps a relation keeps every weaker one. -/
theorem mono {R' : World τ → World τ → Prop} (hx : x.Keeps R)
    (h : ∀ w w', R w w' → R' w w') : x.Keeps R' :=
  fun w => (hx w).mono (fun _ => h w) (fun _ => h w)

/-- An action that comes later keeps the relation to the world before. -/
theorem after {w w₁ : World τ} (hx : x.Keeps R) (h : R w w₁) :
    x.Yields w₁ (fun _ => R w) (fun _ => R w) :=
  (hx w₁).mono (fun _ _ h' => trans_of R h h') (fun _ _ h' => trans_of R h h')

theorem pure (a : α) : Keeps R (Pure.pure a : Act τ α) :=
  fun w => (yields_pure a).mpr (refl_of R w)

theorem look (f : World τ → α) : Keeps R (Act.look f) :=
  fun w => (yields_look f).mpr (refl_of R w)

theorem raise (e : Fault τ) : Keeps R (Act.raise e : Act τ α) :=
  fun w => (yields_raise e).mpr (refl_of R w)

omit [IsPreorder (World τ) R] in
theorem change {f : World τ → World τ} (hf : ∀ w, R w (f w)) : Keeps R (Act.change f) :=
  fun w => yields_change.mpr (hf w)

theorem bind {f : α → Act τ β} (hx : x.Keeps R) (hf : ∀ a, (f a).Keeps R) :
    Keeps R (x >>= f) := by
  intro w
  exact yields_bind.mpr ((hx w).mono (fun a _ h₁ => (hf a).after h₁) (fun _ _ h => h))

omit [IsPreorder (World τ) R] in
theorem map (f : α → β) (hx : x.Keeps R) : Keeps R (f <$> x) :=
  fun w => yields_map.mpr (hx w)

/-- A rescue keeps the relation to the world before, if the action has done
so and every way on does. -/
theorem rescue_after {handler : Fault τ → Option (Act τ α)} {w w₁ : World τ}
    (hx : x.Yields w₁ (fun _ => R w) (fun _ => R w))
    (hy : ∀ e y, handler e = some y → y.Keeps R) :
    (x.rescue handler).Yields w₁ (fun _ => R w) (fun _ => R w) := by
  refine yields_rescue.mpr (hx.mono (fun _ _ h => h) (fun e w₂ h₂ => ?_))
  split
  · next y he => exact (hy e y he).after h₂
  · exact h₂

theorem rescue {handler : Fault τ → Option (Act τ α)} (hx : x.Keeps R)
    (hy : ∀ e y, handler e = some y → y.Keeps R) : Keeps R (x.rescue handler) :=
  fun w => rescue_after (hx w) hy

theorem onFault {kind : Fault τ → Bool} {cleanUp : Act τ Unit} (hx : x.Keeps R)
    (hc : cleanUp.Keeps R) : Keeps R (x.onFault kind cleanUp) := by
  refine hx.rescue (fun e y he => ?_)
  split at he
  · rw [← Option.some.inj he]
    exact hc.bind (fun _ => raise e)
  · cases he

theorem loop {body : Act τ (Option α)} (hx : body.Keeps R) : Keeps R (Act.loop body) := by
  intro w
  refine Yields.loop (R w) (refl_of R w) (fun w₁ h₁ => (hx.after h₁).mono (fun o w₂ h₂ => ?_)
    (fun _ _ h => h))
  cases o with
  | none => exact h₂
  | some a => exact h₂

end Keeps

end LocalServer.Act
