import LocalServer.Proofs.HealthGate

/-!
# Waits keep their time

When a wait for a server asks its questions is settled before it begins, by the
answers that are to come: each question is asked when the answer to the one before
was there and a pause has gone by (`World.askingTime`). The wait goes along these
times, and what it does is said by the number of them that it has come to.

On the exact scale of seconds no two of those times are closer to each other than a
pause is long, which bounds the number of questions. A wait is in vain only if its
time is up, and then it has not lasted longer than its last round takes
(`HealthCheck.await_keeps_time`).
-/

namespace LocalServer

open Act World

variable {τ : Type}

/-! ## The answers to come -/

namespace World

/-- **The answers to come**, counted from the next one. Where there are no more, the
latest is repeated; if there never was one, nobody answers. -/
def toCome (w : World τ) (n : Nat) : Probe τ :=
  ((w.probes[n]?.or w.probes.getLast?).or w.lastProbe).getD .nobody

theorem toCome_zero (w : World τ) : w.toCome 0 = w.upcoming := by
  unfold toCome upcoming answers
  cases w.probes with
  | nil => cases w.lastProbe <;> rfl
  | cons p ps => rfl

/-- No answer comes that was not to be expected. -/
theorem toCome_mem_or_eq (w : World τ) (n : Nat) :
    w.toCome n ∈ w.answers ∨ w.toCome n = .nobody := by
  unfold toCome answers
  cases h : (w.probes[n]?.or w.probes.getLast?).or w.lastProbe with
  | none => exact Or.inr rfl
  | some p =>
    refine Or.inl (List.mem_append.mpr ?_)
    rcases Option.or_eq_some_iff.mp h with h | ⟨-, h⟩
    · rcases Option.or_eq_some_iff.mp h with h | ⟨-, h⟩
      · exact Or.inl (List.mem_of_getElem? h)
      · exact Or.inl (List.mem_of_getLast? h)
    · exact Or.inr (Option.mem_toList.mpr h)

end World

variable [Seconds τ]

/-- **One answer was given** between two worlds. -/
structure World.Answered (w w' : World τ) : Prop where
  /-- It has taken its time. -/
  clock : w'.clock = Machine.arrival (w.toCome 0) w.clock
  /-- The others are to come. -/
  toCome : ∀ n, w'.toCome n = w.toCome (n + 1)

theorem Machine.answered_probe (url : String) (timeout : τ) (w : World τ) :
    (probe url timeout).Yields w (fun _ w' => Answered w w') (fun _ _ => False) := by
  intro ending w' h
  simp only [run, probe] at h
  cases h
  refine ⟨?_, fun n => ?_⟩
  · rw [toCome_zero, upcoming, answers]
    cases w.probes with
    | nil => cases w.lastProbe <;> rfl
    | cons p ps => rfl
  · unfold toCome
    cases w.probes with
    | nil => rfl
    | cons p ps =>
      -- the latest answer stands for the last of those that were to come
      have hlast : ps.getLast?.or (some p) = (p :: ps).getLast?.or w.lastProbe := by
        rw [List.getLast?_cons]
        cases ps.getLast? <;> rfl
      dsimp only
      rw [Option.or_assoc, hlast, ← Option.or_assoc, List.getElem?_cons_succ]

/-- **Pauses go by while idling** only as they are counted. -/
theorem World.idle_passes : Idle (Passes : World τ → World τ → Prop) where
  note _ _ := .of_eq rfl rfl
  phase _ _ := .of_eq rfl rfl
  probe _ _ _ _ _ h := by
    cases h
    exact .of_eq rfl rfl

/-- A pause that was not interrupted is seen. -/
theorem World.Sees.slept (pause : τ) (w : World τ) :
    Sees w (Machine.slept pause w) [(w.clock, .sleep pause)] where
  timeline := timeline_record w _
  phase := rfl
  kept := rfl
  foresees := ⟨fun _ h => h, rfl, rfl, rfl, rfl, rfl⟩

/-! ## The times of a wait -/

namespace World

/-- **When a question is asked** in a wait that begins now, counted from the first
one. -/
def askingTime (interval : τ) (w : World τ) : Nat → τ
  | 0 => w.clock
  | n + 1 => Machine.arrival (w.toCome n) (askingTime interval w n) + interval

/-- When the answer to a question is there. -/
def answerTime (interval : τ) (w : World τ) (n : Nat) : τ :=
  Machine.arrival (w.toCome n) (w.askingTime interval n)

omit [Seconds τ] in
/-- **When questions were asked.** -/
def askedAt (seen : List (τ × Event τ)) : List τ :=
  seen.filterMap fun e => e.2.exchange?.map fun _ => e.1

omit [Seconds τ] in
theorem askedAt_append (seen seen' : List (τ × Event τ)) :
    askedAt (seen ++ seen') = askedAt seen ++ askedAt seen' :=
  List.filterMap_append

end World

namespace HealthCheck

/-- **What is seen of a question** in a wait that begins in a world. -/
def questionSeen (baseUrl : String) (interval : τ) (w : World τ) (n : Nat) :
    List (τ × Event τ) :=
  checked baseUrl interval (w.askingTime interval n) (w.answerTime interval n)
    (w.toCome n).answer

/-- **What is seen of the first rounds** of a wait: in each of them a question, and
then a pause. -/
def roundsSeen (baseUrl : String) (interval : τ) (w : World τ) : Nat → List (τ × Event τ)
  | 0 => []
  | n + 1 => roundsSeen baseUrl interval w n ++ questionSeen baseUrl interval w n
      ++ [(w.answerTime interval n, .sleep interval)]

omit [Seconds τ] in
/-- A health check asks at the time at which it begins. -/
theorem askedAt_checked (baseUrl : String) (timeout now later : τ) (answer : Answer τ) :
    askedAt (checked baseUrl timeout now later answer) = [now] := by
  have htelling : askedAt (telling later (complaint baseUrl answer).toList) = [] :=
    List.filterMap_eq_nil_iff.mpr fun e he => by
      obtain ⟨n, -, rfl⟩ := List.mem_map.mp he
      rfl
  rw [checked, askedAt_append, htelling]
  rfl

/-- **There is one question in each round**, at its time. -/
theorem askedAt_roundsSeen (baseUrl : String) (interval : τ) (w : World τ) (n : Nat) :
    askedAt (roundsSeen baseUrl interval w n) = (List.range n).map (w.askingTime interval) := by
  induction n with
  | zero => rfl
  | succ n ih =>
    rw [roundsSeen, askedAt_append, askedAt_append, ih, questionSeen, askedAt_checked,
      List.range_succ, List.map_append]
    exact List.append_nil _

/-! ## The wait, round by round -/

/-- **A question is in vain**: its time has come before that of the wait was up, and
its answer is that the server is not healthy. -/
structure InVain (timeout interval : τ) (w : World τ) (n : Nat) : Prop where
  inTime : w.askingTime interval n - w.clock < timeout
  unhealthy : verdict (w.toCome n).answer = .ok false

/-- **The invariant of a wait for a server**: some questions were asked since it began,
all of them in vain. -/
structure Waited (baseUrl : String) (timeout interval : τ) (w w' : World τ) (n : Nat) :
    Prop where
  /-- The time of the next question has come. -/
  clock : w'.clock = w.askingTime interval n
  /-- The answers to the next questions are to come. -/
  toCome : ∀ i, w'.toCome i = w.toCome (n + i)
  /-- Nothing but rounds was seen. -/
  sees : Sees w w' (roundsSeen baseUrl interval w n)
  /-- All the questions were in vain. -/
  inVain : ∀ i < n, InVain timeout interval w i

/-- **How a wait for a server ends** after some questions in vain: with one that is
answered by a healthy server, or without one, because the time is up. -/
def AwaitEnds (baseUrl : String) (timeout interval : τ) (w : World τ) : Bool → World τ → Prop
  | true, w' => ∃ n, (∀ i < n, InVain timeout interval w i) ∧
      w.askingTime interval n - w.clock < timeout ∧
      verdict (w.toCome n).answer = .ok true ∧
      Sees w w' (roundsSeen baseUrl interval w n ++ questionSeen baseUrl interval w n
        ++ [(w.answerTime interval n, .notice (.serverHealthy baseUrl))])
  | false, w' => ∃ n, Waited baseUrl timeout interval w w' n ∧
      ¬ w.askingTime interval n - w.clock < timeout

variable {baseUrl : String} {timeout interval : τ} {w w₁ w₂ : World τ} {n : Nat}

/-- A health check takes one answer. -/
theorem answered_check (baseUrl : String) (timeout : τ) (w : World τ) :
    (check baseUrl timeout).Yields w (fun _ w' => Answered w w') (fun _ w' => Answered w w') := by
  refine yields_bind.mpr ((Machine.answered_probe _ _ w).mono (fun answer w₁ h => ?_)
    (fun _ _ h => h.elim))
  cases answer with
  | status code =>
    dsimp only
    split
    · exact (yields_pure true).mpr h
    · simp only [yields_bind, yields_note, yields_pure]
      exact ⟨h.clock, h.toCome⟩
  | failed reason =>
    simp only [yields_bind, yields_note, yields_pure]
    exact ⟨h.clock, h.toCome⟩
  | broken e => exact (yields_raise e).mpr h

/-- **A question is asked** in a wait, and answered. -/
theorem Waited.check (h : Waited baseUrl timeout interval w w₁ n) (hw : ∀ e, ¬ w.Breaks e) :
    (check baseUrl interval).Undisturbed w₁ (fun healthy w₂ =>
      verdict (w.toCome n).answer = .ok healthy ∧ w₂.clock = w.answerTime interval n ∧
      (∀ i, w₂.toCome i = w.toCome (n + 1 + i)) ∧
      Sees w w₂ (roundsSeen baseUrl interval w n ++ questionSeen baseUrl interval w n)) := by
  have hnext : w₁.upcoming = w.toCome n := by rw [← toCome_zero, h.toCome, Nat.add_zero]
  refine ((yields_check baseUrl interval w₁).and ((answered_check baseUrl interval w₁).and
    (idle_passes.keeps_check baseUrl interval w₁))).mono (fun healthy w₂ h₂ => ?_)
    (fun e w₂ h₂ => ?_)
  · obtain ⟨⟨hverdict, hsees⟩, hanswered, hpasses⟩ := h₂
    have hclock : w₂.clock = w.answerTime interval n := by
      rw [hanswered.clock, toCome_zero, hnext, h.clock, answerTime]
    rw [hnext] at hverdict hsees
    rw [hclock, h.clock] at hsees
    refine ⟨hpasses, fun _ => ⟨hverdict, hclock, fun i => ?_, h.sees.trans hsees⟩⟩
    rw [hanswered.toCome, h.toCome, Nat.add_comm i 1, Nat.add_assoc]
  · exact absurd (h.sees.foresees.breaks e (breaks_of_verdict h₂.1.1)) (hw e)

/-- **A round of the wait** keeps the invariant, or ends the wait. -/
theorem undisturbed_awaitRound (hw : ∀ e, ¬ w.Breaks e)
    (h : Waited baseUrl timeout interval w w₁ n) :
    (awaitRound baseUrl timeout interval w.clock).Undisturbed w₁ (fun o w' =>
      o.elim (∃ m, Waited baseUrl timeout interval w w' m)
        (fun healthy => AwaitEnds baseUrl timeout interval w healthy w')) := by
  refine .of_returned_bind (run_look _ w₁) (refl_of Passes w₁) ?_
  by_cases hlt : w₁.clock - w.clock < timeout
  · rw [if_pos hlt]
    rw [h.clock] at hlt
    refine (h.check hw).bind (fun healthy => ?_) (fun healthy w₂ h₂ => ?_)
    · split
      · exact (passes_note _).bind (fun _ => Keeps.pure _)
      · exact (Machine.passes_sleep interval).bind (fun _ => Keeps.pure _)
    obtain ⟨hverdict, hclock, htoCome, hsees⟩ := h₂
    cases healthy with
    | true =>
      rw [if_pos rfl]
      have hrun : (note (.serverHealthy baseUrl) >>= fun _ => pure (some true)).run w₂
          = some (.returned (some true), w₂.record (.notice (.serverHealthy baseUrl))) := rfl
      refine .of_returned hrun (.of_eq rfl rfl) ⟨n, h.inVain, hlt, hverdict, ?_⟩
      rw [← hclock]
      exact hsees.trans (.note w₂ _)
    | false =>
      rw [if_neg Bool.false_ne_true]
      refine (Machine.undisturbed_sleep interval w₂).bind (fun _ => Keeps.pure _)
        (fun _ w₃ h₃ => .of_returned (run_pure _ w₃) (refl_of Passes w₃) ⟨n + 1, ?_⟩)
      rw [h₃]
      refine ⟨congrArg (· + interval) hclock, htoCome, ?_, fun i hi => ?_⟩
      · rw [roundsSeen, ← hclock]
        exact hsees.trans (.slept interval w₂)
      · rcases Nat.lt_succ_iff_lt_or_eq.mp hi with hlt' | rfl
        · exact h.inVain i hlt'
        · exact ⟨hlt, hverdict⟩
  · rw [if_neg hlt]
    rw [h.clock] at hlt
    exact .of_returned (run_pure _ w₁) (refl_of Passes w₁) ⟨n, h, hlt⟩

/-- **The wait for a server**, if no answer is a fault and no pause is interrupted. -/
theorem undisturbed_await (baseUrl : String) (timeout interval : τ) (hw : ∀ e, ¬ w.Breaks e) :
    (await baseUrl timeout interval).Undisturbed w (AwaitEnds baseUrl timeout interval w) := by
  rw [await_eq]
  refine .of_returned_bind (run_look _ w) (refl_of Passes w) ?_
  refine .loop (fun w₁ => ∃ n, Waited baseUrl timeout interval w w₁ n) ⟨0, ?_⟩
    (idle_passes.keeps_awaitRound Machine.passes_sleep baseUrl timeout interval _)
    (fun w₁ ⟨n, h⟩ => undisturbed_awaitRound hw h)
  exact ⟨rfl, fun i => by rw [Nat.zero_add], .refl w, fun i hi => absurd hi (Nat.not_lt_zero i)⟩

end HealthCheck

/-! ## On the exact scale -/

/-- The time that an answer takes. -/
def Probe.duration (p : Probe Rat) : Rat :=
  p.cost.getD 0

theorem Machine.arrival_eq (p : Probe Rat) (now : Rat) : arrival p now = now + p.duration := by
  unfold arrival Probe.duration
  cases p.cost with
  | none => exact (add_zero now).symm
  | some cost => rfl

namespace World

variable {w : World Rat} {interval : Rat}

/-- A question is asked when the answer to the one before has taken its time, and a
pause has gone by. -/
theorem askingTime_succ (n : Nat) : w.askingTime interval (n + 1)
    = w.askingTime interval n + (w.toCome n).duration + interval := by
  rw [askingTime, Machine.arrival_eq]

theorem IsForward.duration_nonneg (hw : w.IsForward) (n : Nat) : 0 ≤ (w.toCome n).duration := by
  unfold Probe.duration
  rcases w.toCome_mem_or_eq n with hmem | hnobody
  · cases hcost : (w.toCome n).cost with
    | none => exact le_rfl
    | some cost => exact hw _ hmem cost hcost
  · rw [hnobody]
    exact le_rfl

/-- **Questions are a pause apart**, at least. -/
theorem IsForward.askingTime_add_le (hw : w.IsForward) (interval : Rat) (n : Nat) :
    w.askingTime interval n + interval ≤ w.askingTime interval (n + 1) := by
  rw [askingTime_succ]
  linarith [hw.duration_nonneg n]

/-- One question is asked after the other. -/
theorem IsForward.askingTime_strictMono (hw : w.IsForward) (hp : 0 < interval) :
    StrictMono (w.askingTime interval) :=
  strictMono_nat_of_lt_succ fun n => by linarith [hw.askingTime_add_le interval n]

/-- A question comes after all the pauses before it. -/
theorem IsForward.mul_le_askingTime (hw : w.IsForward) (n : Nat) :
    n * interval ≤ w.askingTime interval n - w.clock := by
  induction n with
  | zero => rw [askingTime, sub_self, Nat.cast_zero, zero_mul]
  | succ n ih =>
    rw [Nat.cast_succ, add_one_mul]
    linarith [hw.askingTime_add_le interval n]

/-- **The number of questions is bounded**: one that is asked in time is among the
first that pauses leave room for. -/
theorem IsForward.lt_ceil_of_inTime (hw : w.IsForward) (hp : 0 < interval) {timeout : Rat}
    {n : Nat} (h : w.askingTime interval n - w.clock < timeout) : n < ⌈timeout / interval⌉₊ :=
  Nat.lt_ceil.mpr ((lt_div_iff₀ hp).mpr ((hw.mul_le_askingTime n).trans_lt h))

end World

namespace HealthCheck

variable {baseUrl : String} {timeout interval : Rat} {w w' : World Rat} {n : Nat}

/-- **A wait has kept its time**, given what it has come to, how many questions it has
asked, and what was seen of it. -/
structure KeepsTime (baseUrl : String) (timeout interval : Rat) (w w' : World Rat)
    (healthy : Bool) (n : Nat) (seen : List (Rat × Event Rat)) : Prop where
  timeline : w'.timeline = w.timeline ++ seen
  /-- The questions were asked at their times. -/
  asked : askedAt seen = (List.range n).map (w.askingTime interval)
  /-- There are no more of them than pauses fit into the time of the wait. -/
  bounded : n ≤ ⌈timeout / interval⌉₊
  /-- Without any time for it there is none. -/
  eq_zero : timeout ≤ 0 → n = 0
  /-- The server is healthy exactly if one of the questions that come in time is
  answered so. -/
  healthy_iff : healthy = true ↔ ∃ i, w.askingTime interval i < w.clock + timeout ∧
    (w.toCome i).answer = .status healthyStatus
  /-- The first such question is the last, and no pause follows it. -/
  stops : healthy = true → ∃ m, n = m + 1 ∧ w.askingTime interval m < w.clock + timeout ∧
    (w.toCome m).answer = .status healthyStatus ∧
    (∀ i < m, (w.toCome i).answer ≠ .status healthyStatus) ∧
    seen = roundsSeen baseUrl interval w m ++ questionSeen baseUrl interval w m
      ++ [(w.answerTime interval m, .notice (.serverHealthy baseUrl))]
  /-- A wait that is given up on was made of rounds only. -/
  rounds : healthy = false → seen = roundsSeen baseUrl interval w n
  /-- Its time was up, and not for longer than its last round takes. -/
  late : healthy = false → 0 < timeout → ∃ m, n = m + 1 ∧ timeout ≤ w'.clock - w.clock ∧
    w'.clock - w.clock < timeout + interval + (w.toCome m).duration

/-- Questions in vain were asked in time, so their number is bounded. -/
theorem le_ceil_of_inVain (hforward : w.IsForward) (hp : 0 < interval)
    (h : ∀ i < n, InVain timeout interval w i) : n ≤ ⌈timeout / interval⌉₊ := by
  cases n with
  | zero => exact Nat.zero_le _
  | succ m => exact hforward.lt_ceil_of_inTime hp (h m (Nat.lt_succ_self m)).inTime

theorem eq_zero_of_le_ceil (hp : 0 < interval) (h : n ≤ ⌈timeout / interval⌉₊)
    (hnone : timeout ≤ 0) : n = 0 := by
  rw [Nat.ceil_eq_zero.mpr (div_nonpos_of_nonpos_of_nonneg hnone hp.le)] at h
  exact Nat.le_zero.mp h

/-- **When the time of a wait was up**: a round before, it was not. -/
theorem Waited.late (h : Waited baseUrl timeout interval w w' n)
    (hlate : ¬ w.askingTime interval n - w.clock < timeout) (hpos : 0 < timeout) :
    ∃ m, n = m + 1 ∧ timeout ≤ w'.clock - w.clock ∧
      w'.clock - w.clock < timeout + interval + (w.toCome m).duration := by
  cases n with
  | zero =>
    rw [askingTime, sub_self] at hlate
    exact absurd hpos hlate
  | succ m =>
    have hinTime := (h.inVain m (Nat.lt_succ_self m)).inTime
    rw [h.clock]
    refine ⟨m, rfl, not_lt.mp hlate, ?_⟩
    rw [askingTime_succ]
    linarith

/-- **A wait whose time is up** has missed no healthy answer: what comes in time was
asked for. -/
theorem Waited.ne_healthy (h : Waited baseUrl timeout interval w w' n)
    (hforward : w.IsForward) (hp : 0 < interval)
    (hlate : ¬ w.askingTime interval n - w.clock < timeout) {i : Nat}
    (hi : w.askingTime interval i < w.clock + timeout) :
    (w.toCome i).answer ≠ .status healthyStatus := by
  have hlt : i < n := Nat.lt_of_not_le fun hle => by
    linarith [(hforward.askingTime_strictMono hp).monotone hle]
  exact ne_of_verdict (h.inVain i hlt).unhealthy

/-- **However a wait ends** that nothing disturbs, it has kept its time. -/
theorem AwaitEnds.keepsTime (hforward : w.IsForward) (hp : 0 < interval) {healthy : Bool}
    (h : AwaitEnds baseUrl timeout interval w healthy w') :
    ∃ n seen, KeepsTime baseUrl timeout interval w w' healthy n seen := by
  cases healthy with
  | true =>
    obtain ⟨n, hvain, hlt, hverdict, hsees⟩ := h
    have hhealthy := verdict_eq_true_iff.mp hverdict
    have hinTime : w.askingTime interval n < w.clock + timeout := by linarith
    have hbound := hforward.lt_ceil_of_inTime hp hlt
    -- the last notice stands where a pause would follow the question
    have hasked := askedAt_roundsSeen baseUrl interval w (n + 1)
    rw [roundsSeen, askedAt_append] at hasked
    exact ⟨n + 1, _, {
      timeline := hsees.timeline
      asked := (askedAt_append _ _).trans hasked
      bounded := hbound
      eq_zero := eq_zero_of_le_ceil hp hbound
      healthy_iff := iff_of_true rfl ⟨n, hinTime, hhealthy⟩
      stops := fun _ =>
        ⟨n, rfl, hinTime, hhealthy, fun i hi => ne_of_verdict (hvain i hi).unhealthy, rfl⟩
      rounds := by rintro ⟨⟩
      late := by rintro ⟨⟩ }⟩
  | false =>
    obtain ⟨n, hwaited, hlate⟩ := h
    have hbound := le_ceil_of_inVain hforward hp hwaited.inVain
    exact ⟨n, _, {
      timeline := hwaited.sees.timeline
      asked := askedAt_roundsSeen baseUrl interval w n
      bounded := hbound
      eq_zero := eq_zero_of_le_ceil hp hbound
      healthy_iff := iff_of_false Bool.false_ne_true fun ⟨_, hi, hhealthy⟩ =>
        hwaited.ne_healthy hforward hp hlate hi hhealthy
      stops := by rintro ⟨⟩
      rounds := fun _ => rfl
      late := fun _ => hwaited.late hlate }⟩

/-- **A wait keeps its time.** On the exact scale, with pauses that are longer than
nothing, answers that take no negative time, and none of them a fault, a wait for a
server comes to an end; and if no pause of it was interrupted, then it has kept its
time. -/
theorem await_keeps_time (baseUrl : String) (timeout : Rat) (hp : 0 < interval)
    (hforward : w.IsForward) (hanswers : ∀ e, ¬ w.Breaks e) :
    ∃ ending w', (await baseUrl timeout interval).run w = some (ending, w') ∧
      (Quiet w w' → ∃ healthy n seen, ending = .returned healthy ∧
        KeepsTime baseUrl timeout interval w w' healthy n seen) := by
  obtain ⟨ending, w', hrun⟩ := (ends_await baseUrl timeout hp hforward).exists_run
  refine ⟨ending, w', hrun, fun hquiet => ?_⟩
  obtain ⟨healthy, hending, hends⟩ :=
    (undisturbed_await baseUrl timeout interval hanswers).returned hrun hquiet
  obtain ⟨n, seen, hkeeps⟩ := hends.keepsTime hforward hp
  exact ⟨healthy, n, seen, hending, hkeeps⟩

/-- A server that is healthy when it is asked for the third time. -/
theorem await_keeps_time_of_third_answer :
    let w : World Rat := { World.still 0 (FileTree.empty []) ⟨[], none⟩ with
      probes := [⟨some (1 / 10), .status 503⟩, ⟨none, .failed "connection refused"⟩,
        ⟨some (1 / 10), .status 200⟩] }
    (0 : Rat) < 3 / 10 ∧ w.IsForward ∧ (∀ e, ¬ w.Breaks e) ∧
      ∃ w' seen, (await "http://127.0.0.1:4567" 1 (3 / 10)).run w = some (.returned true, w') ∧
        w'.timeline = w.timeline ++ seen ∧ askedAt seen = [0, 2 / 5, 7 / 10] := by
  intro w
  have hp : (0 : Rat) < 3 / 10 := by decide +kernel
  have hforward : w.IsForward := by
    have hcosts : ∀ p ∈ w.answers, ∀ cost ∈ p.cost, 0 ≤ cost := by decide +kernel
    exact hcosts
  have hanswers : ∀ e, ¬ w.Breaks e := by
    rintro e ⟨p, hmem, hbroken⟩
    have hnone : ∀ p ∈ w.answers, verdict p.answer ≠ .error e := by
      simp [w, World.answers, World.still, verdict]
    exact hnone p hmem (by rw [hbroken, verdict])
  obtain ⟨ending, w', hrun, h⟩ :=
    await_keeps_time "http://127.0.0.1:4567" 1 hp hforward hanswers
  obtain ⟨healthy, n, seen, rfl, hkeeps⟩ := h fun _ _ _ => rfl
  obtain rfl : healthy = true := hkeeps.healthy_iff.mpr ⟨2, by decide +kernel, rfl⟩
  obtain ⟨m, rfl, -, hhealthy, hfirst, -⟩ := hkeeps.stops rfl
  have hasked := hkeeps.asked
  have hm : m = 2 := by
    have hearlier : ∀ i < 2, (w.toCome i).answer ≠ .status healthyStatus := by decide +kernel
    refine Nat.le_antisymm (Nat.le_of_not_lt fun hlt => hfirst 2 hlt rfl) ?_
    exact Nat.le_of_not_lt fun hlt => hearlier m hlt hhealthy
  have htimes : (List.range 3).map (w.askingTime (3 / 10)) = [0, 2 / 5, 7 / 10] := by
    decide +kernel
  rw [hm, htimes] at hasked
  exact ⟨hp, hforward, hanswers, w', seen, hrun, hkeeps.timeline, hasked⟩

end HealthCheck

end LocalServer
