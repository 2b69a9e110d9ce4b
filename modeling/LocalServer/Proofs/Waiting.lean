import LocalServer.Proofs.Calls
import Mathlib.Algebra.Order.Floor.Ring
import Mathlib.Data.Rat.Floor
import Mathlib.Tactic.Linarith

/-!
# Waits end

On the exact scale of seconds every wait ends whose pauses are longer than
nothing. A pause that is not cut short brings the end of the wait nearer by
its length, and a pause that is cut short uses up one of the interruptions,
of which there are finitely many. `World.waitLeft` counts both, and each
round of a wait that goes on makes it less.

For the wait for a server it takes one thing more: no answer comes before it
was asked for (`World.IsForward`).
-/

namespace LocalServer

open Act

namespace World

/-- The answers that may still come. -/
def answers {τ : Type} (w : World τ) : List (Probe τ) :=
  w.probes ++ w.lastProbe.toList

/-- **The next answer**, which is from nobody if there is none to come. -/
def upcoming {τ : Type} (w : World τ) : Probe τ :=
  w.answers.head?.getD .nobody

theorem upcoming_mem_or_eq {τ : Type} (w : World τ) :
    w.upcoming ∈ w.answers ∨ w.upcoming = .nobody := by
  unfold upcoming
  cases h : w.answers.head? with
  | none => exact Or.inr rfl
  | some p => exact Or.inl (List.mem_of_head? h)

/-- **Time only goes forward**: no answer takes less than no time. -/
def IsForward (w : World Rat) : Prop :=
  ∀ p ∈ w.answers, ∀ cost, p.cost = some cost → 0 ≤ cost

/-- The last pause in which an interruption comes. -/
def lastInterruption {τ : Type} (w : World τ) : Nat :=
  (w.interruptions.map Prod.fst).foldr max 0

/-- **What is left of a wait** since a start: the pauses that fit into the
time until its end, and those in which an interruption may come. -/
def waitLeft (start timeout pause : Rat) (w : World Rat) : Nat :=
  ⌈(timeout - (w.clock - start)) / pause⌉₊ + (w.lastInterruption - w.pauses)

/-- **Nothing but time has passed** for a wait between two worlds. -/
structure Ticks (w w' : World Rat) : Prop where
  clock : w.clock ≤ w'.clock
  interruptions : w'.interruptions = w.interruptions
  pauses : w'.pauses = w.pauses

/-- An interruption that is to come comes in the last such pause or before. -/
theorem le_lastInterruption {τ : Type} {w : World τ} {n : Nat} {i : Interruption τ}
    (h : w.interruptions.lookup n = some i) : n ≤ w.lastInterruption := by
  have hle : ∀ (l : List Nat), n ∈ l → n ≤ l.foldr max 0 := by
    intro l hl
    induction l with
    | nil => cases hl
    | cons m ms ih =>
      rw [List.foldr_cons]
      rcases List.mem_cons.mp hl with rfl | hm
      · exact Nat.le_max_left _ _
      · exact Nat.le_trans (ih hm) (Nat.le_max_right _ _)
  obtain ⟨l₁, l₂, hl, -⟩ := List.lookup_eq_some_iff.mp h
  refine hle _ ?_
  rw [hl]
  exact List.mem_map_of_mem (List.mem_append_right _ List.mem_cons_self)

instance : IsPreorder (World Rat) Ticks where
  refl _ := ⟨le_rfl, rfl, rfl⟩
  trans _ _ _ h h' := ⟨h.clock.trans h'.clock, h'.interruptions.trans h.interruptions,
    h'.pauses.trans h.pauses⟩

/-- **A pause makes less of what is left** of a wait whose time was not up
when it was last looked at. -/
theorem waitLeft_sleep {start timeout pause : Rat} {w w₁ : World Rat} (hp : 0 < pause)
    (hlt : w.clock - start < timeout) (h₁ : Ticks w w₁) :
    (Machine.sleep pause).Yields w₁
      (fun _ w' => waitLeft start timeout pause w' < waitLeft start timeout pause w)
      (fun _ _ => True) := by
  have hclock := h₁.clock
  have hlast : w₁.lastInterruption = w.lastInterruption := by
    rw [lastInterruption, h₁.interruptions, lastInterruption]
  intro ending w' h
  simp only [run, Machine.sleep] at h
  split at h
  · -- the pause takes its time
    cases h
    have hpos : 0 < (timeout - (w.clock - start)) / pause := div_pos (by linarith) hp
    have hone : (timeout - (w₁.clock + pause - start)) / pause
        ≤ (timeout - (w.clock - start)) / pause - 1 := by
      rw [div_sub_one hp.ne', div_le_div_iff_of_pos_right hp]
      linarith
    have hceil : ⌈(timeout - (w₁.clock + pause - start)) / pause⌉₊
        < ⌈(timeout - (w.clock - start)) / pause⌉₊ := by
      refine (Nat.ceil_le_ceil hone).trans_lt (Nat.lt_ceil.mpr ?_)
      rcases le_total ((timeout - (w.clock - start)) / pause - 1) 0 with h0 | h0
      · rw [Nat.ceil_eq_zero.mpr h0]
        exact_mod_cast hpos
      · linarith [Nat.ceil_lt_add_one h0]
    refine Nat.add_lt_add_of_lt_of_le hceil ?_
    show w₁.lastInterruption - (w₁.pauses + 1) ≤ _
    rw [hlast, h₁.pauses]
    exact Nat.sub_le_sub_left (Nat.le_succ _) _
  · next i hi =>
    -- the pause is cut short by one of the interruptions
    have hle : w.pauses + 1 ≤ w.lastInterruption := by
      rw [← hlast, ← h₁.pauses]
      exact le_lastInterruption hi
    have hfewer : w₁.lastInterruption - (w₁.pauses + 1) < w.lastInterruption - w.pauses := by
      rw [hlast, h₁.pauses]
      exact Nat.sub_lt_sub_left hle (Nat.lt_succ_self _)
    have htime : ⌈(timeout - (w₁.clock - start)) / pause⌉₊
        ≤ ⌈(timeout - (w.clock - start)) / pause⌉₊ :=
      Nat.ceil_le_ceil ((div_le_div_iff_of_pos_right hp).mpr (by linarith))
    split at h <;> cases h
    · trivial
    · exact Nat.add_lt_add_of_le_of_lt htime hfewer

/-- **Time flows** between two worlds: if it only went forward, then it has
passed without a pause, and still only goes forward. -/
def Flows (w w' : World Rat) : Prop :=
  w.IsForward → Ticks w w' ∧ w'.IsForward

instance : IsPreorder (World Rat) Flows where
  refl w hw := ⟨refl_of Ticks w, hw⟩
  trans _ _ _ h h' hw :=
    ⟨trans_of Ticks (h hw).1 (h' (h hw).2).1, (h' (h hw).2).2⟩

/-- No time passes where the clock and the answers to come are the same. -/
theorem Flows.of_eq {w w' : World Rat} (hc : w'.clock = w.clock)
    (hi : w'.interruptions = w.interruptions) (hp : w'.pauses = w.pauses)
    (ha : w'.answers = w.answers) : Flows w w' := by
  intro hw
  refine ⟨⟨hc.ge, hi, hp⟩, ?_⟩
  rw [IsForward, ha]
  exact hw

end World

open World

/-! ## What takes no pause -/

namespace Machine

section Ends

variable {τ : Type} [Seconds τ] {w : World τ}

theorem ends_sleep (pause : τ) : (sleep pause).Ends w := by
  simp only [Ends, run, sleep]
  split
  · rfl
  · split <;> rfl

theorem ends_probe (url : String) (timeout : τ) : (probe url timeout).Ends w := rfl

theorem ends_spawn (command : List String) (directory : String) (flags : Option Nat) :
    (spawn command directory flags).Ends w := by
  simp only [Ends, run, spawn]
  split <;> rfl

end Ends

/-- A pause leaves the answers that are to come. -/
theorem forward_sleep (pause : Rat) {w : World Rat} (hw : w.IsForward) :
    (sleep pause).Yields w (fun _ w' => w'.IsForward) (fun _ _ => True) := by
  intro ending w' h
  simp only [run, sleep] at h
  split at h
  · cases h
    exact hw
  · split at h <;> cases h
    · trivial
    · exact hw

/-- An answer that takes no negative time is not there before it is asked
for. -/
theorem le_arrival {p : Probe Rat} (hp : ∀ cost, p.cost = some cost → 0 ≤ cost) (now : Rat) :
    now ≤ arrival p now := by
  unfold arrival
  split
  · next cost hcost => exact le_add_of_nonneg_right (hp cost hcost)
  · exact le_rfl

/-- **A question is answered** by the next answer, and only such answers are
to come afterwards as were to come before. -/
theorem run_probe {τ : Type} [Seconds τ] (url : String) (timeout : τ) (w : World τ) :
    ∃ rest last, (∀ q ∈ rest ++ Option.toList last, q ∈ w.answers) ∧
      (probe url timeout).run w = some (.returned w.upcoming.answer,
        { w.record (.probe url timeout false w.upcoming.answer) with
          probes := rest, lastProbe := last, clock := arrival w.upcoming w.clock }) := by
  simp only [run, probe, upcoming, answers]
  cases w.probes with
  | nil =>
    refine ⟨[], w.lastProbe, fun q hq => hq, ?_⟩
    cases w.lastProbe <;> rfl
  | cons p ps =>
    refine ⟨ps, some p, fun q hq => ?_, rfl⟩
    rcases List.mem_append.mp hq with hps | hlast
    · exact List.mem_append_left _ (List.mem_cons_of_mem p hps)
    · rw [List.mem_singleton.mp hlast]
      exact List.mem_append_left _ List.mem_cons_self

/-- An answer takes its time. -/
theorem flows_probe (url : String) (timeout : Rat) : (probe url timeout).Keeps Flows := by
  intro w
  obtain ⟨rest, last, hlater, hrun⟩ := run_probe url timeout w
  refine (yields_of_returned hrun).mpr (fun hw => ?_)
  have hcost : ∀ cost, w.upcoming.cost = some cost → 0 ≤ cost := by
    rcases w.upcoming_mem_or_eq with hmem | hnobody
    · exact hw _ hmem
    · rw [hnobody]
      rintro cost ⟨⟩
  exact ⟨⟨le_arrival hcost w.clock, rfl, rfl⟩, fun q hq => hw q (hlater q hq)⟩

theorem flows_spawn (command : List String) (directory : String) (flags : Option Nat) :
    (spawn command directory flags).Keeps Flows := by
  intro w ending w' h
  simp only [run, spawn] at h
  split at h <;> cases h
  · exact Flows.of_eq rfl rfl rfl rfl
  · exact Flows.of_eq rfl rfl rfl rfl

end Machine

/-! ## What is looked up and started -/

/-- While time only goes forward, what takes no pause may come before what
ends. -/
theorem Act.ends_after {α β : Type} {x : Act Rat α} {f : α → Act Rat β} (hx : ∀ w, x.Ends w)
    (hk : x.Keeps Flows) (hf : ∀ a w, IsForward w → (f a).Ends w) {w : World Rat}
    (hw : w.IsForward) : (x >>= f).Ends w :=
  ends_bind.mpr ⟨hx w, (hk w).mono (fun a w' h => hf a w' (h hw).2) (fun _ _ _ => trivial)⟩

/-- **Idling lets time flow.** -/
theorem World.idle_flows : Idle (Flows : World Rat → World Rat → Prop) where
  note _ _ := .of_eq rfl rfl rfl rfl
  phase _ _ := .of_eq rfl rfl rfl rfl
  probe := Machine.flows_probe

theorem Attempt.ends_enter {τ : Type} (phase : Phase) {w : World τ} :
    (enter phase : Act τ Unit).Ends w :=
  (ends_look _).bind fun _ _ => (ends_note _).bind fun _ _ => ends_change _

theorem Keeper.flows_launch (keeper : Keeper Rat) (plan : LaunchPlan) :
    (keeper.launch plan).Keeps Flows := by
  refine (idle_flows.keeps_note _).bind (fun _ => Keeps.bind
    (Keeps.rescue (Machine.flows_spawn _ _ _) (fun e y he => ?_))
    (fun k => (Keeps.look _).bind (fun pid => (idle_flows.keeps_note _).bind
      (fun _ => Keeps.pure k))))
  rw [← Option.some.inj he]
  exact Keeps.raise _

theorem Keeper.ends_launch {τ : Type} [Seconds τ] (keeper : Keeper τ) (plan : LaunchPlan)
    {w : World τ} : (keeper.launch plan).Ends w := by
  refine (ends_note _).bind (fun _ _ => Ends.bind (ends_rescue (Machine.ends_spawn _ _ _)
    (fun e y he _ => ?_)) (fun k _ => (ends_look _).bind (fun pid _ => (ends_note _).bind
      (fun _ _ => ends_pure k))))
  rw [← Option.some.inj he]
  exact ends_raise _

/-! ## The wait for a server -/

namespace HealthCheck

/-- A health check ends, whatever comes back. -/
theorem ends_check {τ : Type} [Seconds τ] (baseUrl : String) (timeout : τ) {w : World τ} :
    (check baseUrl timeout).Ends w := by
  refine (Machine.ends_probe _ _).bind (fun answer w₁ => ?_)
  cases answer with
  | status code =>
    dsimp only
    split
    · exact ends_pure true
    · exact (ends_note _).bind (fun _ _ => ends_pure false)
  | failed reason => exact (ends_note _).bind (fun _ _ => ends_pure false)
  | broken e => exact ends_raise e

/-- **The wait for a server ends** if its pauses are longer than nothing. -/
theorem ends_await (baseUrl : String) (timeout : Rat) {interval : Rat} (hp : 0 < interval)
    {w : World Rat} (hw : w.IsForward) : (await baseUrl timeout interval).Ends w := by
  refine ends_bind.mpr ⟨ends_look _, (yields_look _).mpr ?_⟩
  refine Ends.loop IsForward (waitLeft w.clock timeout interval) hw (fun w₁ _ => ?_)
    (fun w₁ hw₁ => ?_)
  · -- a round ends
    refine (ends_look _).bind (fun now _ => ?_)
    split
    · refine (ends_check _ _).bind (fun healthy _ => ?_)
      split
      · exact (ends_note _).bind (fun _ _ => ends_pure _)
      · exact (Machine.ends_sleep _).bind (fun _ _ => ends_pure _)
    · exact ends_pure _
  · -- and if another one follows, then less of the wait is left
    simp only [yields_bind, yields_look]
    split
    · next hlt =>
      refine yields_bind.mpr ((idle_flows.keeps_check _ _ w₁).mono (fun healthy w₂ h₂ => ?_)
        (fun _ _ _ => trivial))
      obtain ⟨hticks, hw₂⟩ := h₂ hw₁
      split
      · simp only [yields_bind, yields_note, yields_pure]
        rintro ⟨⟩
      · refine yields_bind.mpr (((waitLeft_sleep hp hlt hticks).and
          (Machine.forward_sleep interval hw₂)).mono (fun _ w₃ h₃ => ?_) (fun _ _ _ => trivial))
        exact (yields_pure _).mpr (fun _ => ⟨h₃.2, h₃.1⟩)
    · exact (yields_pure _).mpr (by rintro ⟨⟩)

end HealthCheck

end LocalServer
