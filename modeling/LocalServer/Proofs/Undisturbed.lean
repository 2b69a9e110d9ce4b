import LocalServer.Proofs.Calls

/-!
# Actions that nothing disturbs

Whatever pauses may be interrupted in one of its pauses. What such an action
is meant to do it does if that does not happen, and this can be told
afterwards: it was *quiet* between two worlds if none of the interruptions
belongs to a pause between them (`World.Quiet`). An action has a given effect
`Act.Undisturbed` if, whenever it ends and it was quiet, it has returned and
the effect is there.

The rules are those for what an action yields. One thing is added to them:
an interruption that came once is never undone, for the pauses are only
counted up and the interruptions stay what they are (`World.Passes`).
-/

namespace LocalServer

variable {τ : Type} {α β : Type}

namespace World

/-- **Pauses go by** between two worlds, and the interruptions stay what they
are. -/
structure Passes (w w' : World τ) : Prop where
  interruptions : w'.interruptions = w.interruptions
  pauses : w.pauses ≤ w'.pauses

instance : IsPreorder (World τ) Passes where
  refl _ := ⟨rfl, Nat.le_refl _⟩
  trans _ _ _ h h' :=
    ⟨h'.interruptions.trans h.interruptions, Nat.le_trans h.pauses h'.pauses⟩

theorem Passes.of_eq {w w' : World τ} (hi : w'.interruptions = w.interruptions)
    (hp : w'.pauses = w.pauses) : Passes w w' :=
  ⟨hi, Nat.le_of_eq hp.symm⟩

/-- **It was quiet** between two worlds: no interruption belongs to a pause
between them. -/
def Quiet (w w' : World τ) : Prop :=
  ∀ n, w.pauses < n → n ≤ w'.pauses → w.interruptions.lookup n = none

variable {w w₁ w' : World τ}

/-- It was quiet in the first part of a time in which it was quiet. -/
theorem Quiet.before (h : Quiet w w') (h₁ : Passes w₁ w') : Quiet w w₁ :=
  fun n hlt hle => h n hlt (Nat.le_trans hle h₁.pauses)

/-- And it was quiet in the rest of it. -/
theorem Quiet.after (h : Quiet w w') (h₁ : Passes w w₁) : Quiet w₁ w' := by
  intro n hlt hle
  rw [h₁.interruptions]
  exact h n (Nat.lt_of_le_of_lt h₁.pauses hlt) hle

end World

open World

namespace Act

/-- **What an action does if nothing disturbs it**: if it was quiet until it
ends, then it returns, and `Q` holds of the value and the world then. -/
def Undisturbed (x : Act τ α) (w : World τ) (Q : α → World τ → Prop) : Prop :=
  x.Yields w (fun a w' => Passes w w' ∧ (Quiet w w' → Q a w'))
    (fun _ w' => Passes w w' ∧ ¬ Quiet w w')

namespace Undisturbed

variable {x : Act τ α} {w w' : World τ} {Q Q' : α → World τ → Prop}

/-- An action that returns in any case is not disturbed. -/
theorem of_returned {a : α} (h : x.run w = some (.returned a, w')) (hp : Passes w w')
    (hq : Q a w') : x.Undisturbed w Q :=
  (yields_of_returned h).mpr ⟨hp, fun _ => hq⟩

theorem mono (h : x.Undisturbed w Q) (hQ : ∀ a w', Q a w' → Q' a w') : x.Undisturbed w Q' :=
  Yields.mono h (fun a w' h => ⟨h.1, fun hq => hQ a w' (h.2 hq)⟩) (fun _ _ h => h)

/-- What was quiet when it came to its end has returned. -/
theorem returned {ending : Ending τ α} (h : x.Undisturbed w Q)
    (hrun : x.run w = some (ending, w')) (hq : Quiet w w') :
    ∃ a, ending = .returned a ∧ Q a w' := by
  have hx := h ending w' hrun
  cases ending with
  | returned a => exact ⟨a, rfl, hx.2 hq⟩
  | raised e => exact absurd hq hx.2

/-- An action that nothing disturbs may come later: then it is quiet only if
it was quiet before. -/
theorem since {w₁ : World τ} (h : x.Undisturbed w₁ Q) (hp : Passes w w₁) :
    x.Yields w₁ (fun a w' => Passes w w' ∧ (Quiet w w' → Q a w'))
      (fun _ w' => Passes w w' ∧ ¬ Quiet w w') :=
  Yields.mono h (fun _ _ h₂ => ⟨trans_of Passes hp h₂.1, fun hq => h₂.2 (hq.after hp)⟩)
    (fun _ _ h₂ => ⟨trans_of Passes hp h₂.1, fun hq => h₂.2 (hq.after hp)⟩)

/-- What was disturbed once stays so, whatever comes later. -/
theorem of_disturbed {w₁ : World τ} (hk : x.Keeps Passes) (hp : Passes w w₁)
    (hq : ¬ Quiet w w₁) :
    x.Yields w₁ (fun a w' => Passes w w' ∧ (Quiet w w' → Q a w'))
      (fun _ w' => Passes w w' ∧ ¬ Quiet w w') :=
  Yields.mono (hk w₁)
    (fun _ _ h₂ => ⟨trans_of Passes hp h₂, fun hq₂ => absurd (hq₂.before h₂) hq⟩)
    (fun _ _ h₂ => ⟨trans_of Passes hp h₂, fun hq₂ => hq (hq₂.before h₂)⟩)

/-- **One action after the other.** If the first was disturbed, then nothing
that the second does makes up for it. -/
theorem bind {f : α → Act τ β} {Q' : β → World τ → Prop} (hx : x.Undisturbed w Q)
    (hk : ∀ a, (f a).Keeps Passes) (hf : ∀ a w', Q a w' → (f a).Undisturbed w' Q') :
    (x >>= f).Undisturbed w Q' := by
  refine yields_bind.mpr (Yields.mono hx (fun a w₁ h₁ => ?_) (fun _ _ h => h))
  -- if it was not quiet, then `Q` is not known of the world in which the second one begins
  by_cases hq : Quiet w w₁
  · exact (hf a w₁ (h₁.2 hq)).since h₁.1
  · exact of_disturbed (hk a) h₁.1 hq

/-- An action that comes to what another one does in a later world is disturbed by what
disturbs that. -/
theorem of_run_eq {y : Act τ α} {w₁ : World τ} (h : x.run w = y.run w₁) (hp : Passes w w₁)
    (hy : y.Undisturbed w₁ Q) : x.Undisturbed w Q := by
  unfold Undisturbed
  rw [yields_congr h]
  exact hy.since hp

/-- After an action that returns in any case it goes on as usual. -/
theorem of_returned_bind {f : α → Act τ β} {a : α} {Q' : β → World τ → Prop}
    (h : x.run w = some (.returned a, w')) (hp : Passes w w')
    (hf : (f a).Undisturbed w' Q') : (x >>= f).Undisturbed w Q' := by
  rw [Undisturbed, yields_bind, yields_of_returned h]
  exact hf.since hp

/-- What an action keeps in any case holds as well. -/
theorem and_keeps {R : World τ → World τ → Prop} (h : x.Undisturbed w Q) (hk : x.Keeps R) :
    x.Undisturbed w (fun a w' => Q a w' ∧ R w w') :=
  (Yields.and h (hk w)).mono (fun _ _ h => ⟨h.1.1, fun hq => ⟨h.1.2 hq, h.2⟩⟩) (fun _ _ h => h.1)

/-- **The invariant of a loop** that nothing disturbs. -/
theorem loop {body : Act τ (Option α)} (inv : World τ → Prop) (hw : inv w)
    (hk : body.Keeps Passes) (hround : ∀ w, inv w →
      body.Undisturbed w (fun o w' => o.elim (inv w') (fun a => Q a w'))) :
    (Act.loop body).Undisturbed w Q := by
  refine Yields.loop (fun w₁ => Passes w w₁ ∧ (Quiet w w₁ → inv w₁))
    ⟨refl_of Passes w, fun _ => hw⟩ (fun w₁ h₁ => ?_)
  have hbody : body.Yields w₁
      (fun o w' => Passes w w' ∧ (Quiet w w' → o.elim (inv w') (fun a => Q a w')))
      (fun _ w' => Passes w w' ∧ ¬ Quiet w w') := by
    by_cases hq : Quiet w w₁
    · exact (hround w₁ (h₁.2 hq)).since h₁.1
    · exact of_disturbed hk h₁.1 hq
  refine hbody.mono (fun o w₂ h₂ => ?_) (fun _ _ h => h)
  cases o with
  | none => exact h₂
  | some a => exact h₂

end Undisturbed

theorem passes_note (n : Notice τ) : (note n).Keeps Passes :=
  Keeps.change fun _ => .of_eq rfl rfl

end Act

/-! ## What the machine does -/

namespace Machine

open Act

variable [Seconds τ]

/-- The world after a pause that was not interrupted. -/
def slept (pause : τ) (w : World τ) : World τ :=
  { w.record (.sleep pause) with pauses := w.pauses + 1, clock := w.clock + pause }

theorem passes_sleep (pause : τ) : (sleep pause).Keeps Passes := by
  intro w ending w' h
  simp only [run, sleep] at h
  split at h
  · cases h
    exact ⟨rfl, Nat.le_succ _⟩
  · split at h <;> cases h
    · exact ⟨rfl, Nat.le_succ _⟩
    · exact ⟨rfl, Nat.le_succ _⟩

/-- **A pause takes its time** unless it is interrupted. -/
theorem undisturbed_sleep (pause : τ) (w : World τ) :
    (sleep pause).Undisturbed w (fun _ w' => w' = slept pause w) := by
  intro ending w' h
  simp only [run, sleep] at h
  split at h
  · cases h
    exact ⟨⟨rfl, Nat.le_succ _⟩, fun _ => rfl⟩
  · next i hi =>
    have hloud : ∀ w₁ : World τ, w₁.pauses = w.pauses + 1 → ¬ Quiet w w₁ := by
      intro w₁ hw₁ hq
      have hn := hq (w.pauses + 1) (Nat.lt_succ_self _) (Nat.le_of_eq hw₁.symm)
      cases hi.symm.trans hn
    split at h <;> cases h
    · exact ⟨⟨rfl, Nat.le_succ _⟩, hloud _ rfl⟩
    · exact ⟨⟨rfl, Nat.le_succ _⟩, fun hq => absurd hq (hloud _ rfl)⟩

theorem passes_poll (k : ChildId) : (poll k : Act τ _).Keeps Passes :=
  keeps_poll (fun _ _ _ => .of_eq rfl rfl) (fun _ _ _ => .of_eq rfl rfl) k

theorem passes_kill (k : ChildId) : (kill k : Act τ _).Keeps Passes :=
  keeps_kill (fun _ _ _ => .of_eq rfl rfl) (fun _ _ _ => .of_eq rfl rfl) k

theorem passes_wait (k : ChildId) : (wait k : Act τ _).Keeps Passes :=
  keeps_wait (fun _ _ _ => .of_eq rfl rfl) (fun _ _ _ _ => .of_eq rfl rfl) k

end Machine

end LocalServer
