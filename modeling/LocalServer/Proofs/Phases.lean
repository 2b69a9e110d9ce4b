import LocalServer.Proofs.HealthGate

/-!
# The way of an attempt through the phases

Each step of an attempt from one phase to the next is told, and what is told is a
way through the graph of the phases (`Phase.Way`): it begins with the unchecked
address, whatever came of earlier attempts, and it ends in the phase in which the
attempt is left.

The phase is all that others see of an attempt, so it has to agree with what was
done (`Attempt.Conforms`): whether a server is there, whether a process was to be
started, whether there was a child, and whether that child was killed for good.
A launch error fails the attempt. There is one exception: a health check that is
itself answered with such an error, before anything was started, cuts the attempt
off where it is (`Attempt.CutOff`), and the phase does not tell that it is over.
-/

namespace LocalServer

open Act World

variable {τ : Type} {α : Type}

namespace Phase

/-- **A way through the phases**: steps that are allowed, each from where the one
before has led. -/
inductive Way : Phase → List (Phase × Phase) → Phase → Prop
  /-- To stay is a way. -/
  | stay (p : Phase) : Way p [] p
  /-- A step, and a way from there. -/
  | step {p q r : Phase} {steps : List (Phase × Phase)} (next : Next p q) (rest : Way q steps r) :
      Way p ((p, q) :: steps) r

/-- One way after the other is a way. -/
theorem Way.trans {p q r : Phase} {steps steps' : List (Phase × Phase)} (h : Way p steps q)
    (h' : Way q steps' r) : Way p (steps ++ steps') r := by
  induction h with
  | stay => exact h'
  | step next _ ih => exact .step next (ih h')

/-- A way ends where it begins, or where one of its steps has led. -/
theorem Way.eq_or_mem {p q : Phase} {steps : List (Phase × Phase)} (h : Way p steps q) :
    q = p ∨ q ∈ steps.map Prod.snd := by
  induction h with
  | stay => exact .inl rfl
  | step next rest ih =>
    rcases ih with rfl | hmem
    · exact .inr List.mem_cons_self
    · exact .inr (List.mem_cons_of_mem _ hmem)

theorem Next.way {p q : Phase} (h : Next p q) : Way p [(p, q)] q :=
  .step h (.stay q)

end Phase

/-! ## Steps and calls that are seen -/

/-- The step from phase to phase that a notice tells. -/
def Notice.move? : Notice τ → Option (Phase × Phase)
  | .phaseChanged old new => some (old, new)
  | _ => none

/-- The step from phase to phase that is seen. -/
def Event.move? : Event τ → Option (Phase × Phase)
  | .notice n => n.move?
  | _ => none

/-- The call on a child that is seen. -/
def Event.call? : Event τ → Option (ChildId × Call)
  | .call k _ what => some (k, what)
  | _ => none

/-- The fault that is seen as the answer to a health check. -/
def Event.fault? : Event τ → Option (Fault τ)
  | .probe _ _ _ (.broken e) => some e
  | _ => none

/-- A lookup does not tell of a step to another phase. -/
theorem Finding.LooksUp.filterMap_move? {x : Finding τ α} {P : Fault τ → Prop}
    (h : x.LooksUp P) : x.notices.filterMap Notice.move? = [] :=
  List.filterMap_eq_nil_iff.mpr fun n hn => by
    have := h.notices n hn
    cases n <;> first | rfl | cases this

namespace World

/-- **The steps from phase to phase**, in the order of time. -/
def moves (seen : List (τ × Event τ)) : List (Phase × Phase) :=
  seen.filterMap fun e => e.2.move?

/-- **The calls on children**, in the order of time. -/
def calls (seen : List (τ × Event τ)) : List (ChildId × Call) :=
  seen.filterMap fun e => e.2.call?

/-- **The phases that were visited** after the first. -/
def visited (seen : List (τ × Event τ)) : List Phase :=
  (moves seen).map Prod.snd

/-- **The fault at the end** of what is seen, if the last of it is a health check
that was answered with a fault. -/
def lastFault? (seen : List (τ × Event τ)) : Option (Fault τ) :=
  seen.getLast?.bind fun e => e.2.fault?

section Simp

variable {seen seen' : List (τ × Event τ)} {now : τ}

/-- Going on to another phase is no fault. -/
@[simp] theorem lastFault?_append_moved (old new : Phase) :
    lastFault? (seen ++ Attempt.moved now old new) = none := by
  rw [lastFault?, Attempt.moved, List.getLast?_concat]
  rfl

/-- What is seen of a health check ends in the fault that was its answer. -/
@[simp] theorem lastFault?_append_checked_broken (baseUrl : String) (timeout later : τ)
    (e : Fault τ) :
    lastFault? (seen ++ HealthCheck.checked baseUrl timeout now later (.broken e)) = some e := by
  have hchecked : HealthCheck.checked baseUrl timeout now later (.broken e)
      = [(now, .probe (HealthCheck.url baseUrl) timeout false (.broken e))] := rfl
  rw [lastFault?, hchecked, List.getLast?_concat]
  rfl

@[simp] theorem moves_append : moves (seen ++ seen') = moves seen ++ moves seen' :=
  List.filterMap_append

@[simp] theorem calls_append : calls (seen ++ seen') = calls seen ++ calls seen' :=
  List.filterMap_append

@[simp] theorem visited_append : visited (seen ++ seen') = visited seen ++ visited seen' := by
  rw [visited, moves_append, List.map_append, visited, visited]

@[simp] theorem moves_moved (old new : Phase) :
    moves (Attempt.moved now old new) = [(old, new)] := rfl

@[simp] theorem calls_moved (old new : Phase) : calls (Attempt.moved now old new) = [] := rfl

@[simp] theorem moves_telling (notices : List (Notice τ)) :
    moves (telling now notices) = notices.filterMap Notice.move? := by
  rw [moves, telling, List.filterMap_map]
  rfl

@[simp] theorem calls_telling (notices : List (Notice τ)) : calls (telling now notices) = [] :=
  List.filterMap_eq_nil_iff.mpr fun e he => by
    obtain ⟨n, -, rfl⟩ := List.mem_map.mp he
    rfl

@[simp] theorem moves_launching (keeper : Keeper τ) (plan : LaunchPlan) (child : Option ChildId) :
    moves (keeper.launching plan now child) = [] := rfl

@[simp] theorem calls_launching (keeper : Keeper τ) (plan : LaunchPlan) (child : Option ChildId) :
    calls (keeper.launching plan now child) = [] := rfl

@[simp] theorem moves_givingUp (k : ChildId) (pid : Int) :
    moves (Keeper.givingUp k pid now) = [] := rfl

@[simp] theorem calls_givingUp (k : ChildId) (pid : Int) :
    calls (Keeper.givingUp k pid now) = [(k, .kill), (k, .wait)] := rfl

end Simp

/-- **Nothing happens** in what is seen, but that time passes and servers are
asked: there is no step to another phase, and no call on a child. -/
structure Uneventful (seen : List (τ × Event τ)) : Prop where
  moves : moves seen = []
  calls : calls seen = []

variable {seen seen' : List (τ × Event τ)} {now : τ}

theorem Uneventful.append (h : Uneventful seen) (h' : Uneventful seen') :
    Uneventful (seen ++ seen') where
  moves := by rw [moves_append, h.moves, h'.moves, List.append_nil]
  calls := by rw [calls_append, h.calls, h'.calls, List.append_nil]

/-- Notices are uneventful, but for those of a step to another phase. -/
theorem uneventful_telling {notices : List (Notice τ)} (h : ∀ n ∈ notices, n.move? = none) :
    Uneventful (telling now notices) where
  moves := (moves_telling notices).trans (List.filterMap_eq_nil_iff.mpr h)
  calls := calls_telling notices

theorem uneventful_note {n : Notice τ} (h : n.move? = none) : Uneventful [(now, .notice n)] :=
  (uneventful_telling (by simpa using h) : Uneventful (telling now [n]))

/-- A health check is uneventful. -/
theorem uneventful_checked (baseUrl : String) (timeout later : τ) (answer : Answer τ) :
    Uneventful (HealthCheck.checked baseUrl timeout now later answer) := by
  have hcomplaint : ∀ n ∈ (HealthCheck.complaint baseUrl answer).toList, n.move? = none := by
    intro n hn
    unfold HealthCheck.complaint at hn
    split at hn
    · split at hn
      · cases hn
      · cases List.mem_singleton.mp hn
        rfl
    · cases List.mem_singleton.mp hn
      rfl
    · cases hn
  exact Uneventful.append ⟨rfl, rfl⟩ (uneventful_telling hcomplaint)

@[simp] theorem moves_checked (baseUrl : String) (timeout later : τ) (answer : Answer τ) :
    moves (HealthCheck.checked baseUrl timeout now later answer) = [] :=
  (uneventful_checked ..).moves

@[simp] theorem calls_checked (baseUrl : String) (timeout later : τ) (answer : Answer τ) :
    calls (HealthCheck.checked baseUrl timeout now later answer) = [] :=
  (uneventful_checked ..).calls

end World

/-! ## The wait for a child -/

variable [Seconds τ]

namespace HealthCheck

variable {baseUrl : String} {timeout interval start now : τ} {w : World τ}
  {seen : List (τ × Event τ)} {ending : Ending τ Bool}

theorem Rounds.uneventful (h : Rounds baseUrl timeout interval start seen) :
    Uneventful seen := by
  induction h with
  | none => exact ⟨rfl, rfl⟩
  | more _ _ _ ih => exact (ih.append (uneventful_checked ..)).append ⟨rfl, rfl⟩

theorem Awaited.uneventful (h : Awaited baseUrl timeout interval start w ending now seen) :
    Uneventful seen := by
  cases h with
  | healthy before =>
    exact (before.uneventful.append (uneventful_checked ..)).append (uneventful_note rfl)
  | late before => exact before.uneventful
  | broken before => exact before.uneventful.append (uneventful_checked ..)
  | interrupted before =>
    exact (before.uneventful.append (uneventful_checked ..)).append ⟨rfl, rfl⟩

end HealthCheck

namespace Attempt

variable {a : Attempt τ} {w : World τ} {baseUrl : String} {start now : τ} {resources : Option Path}
  {plan : LaunchPlan} {first seen : List (τ × Event τ)} {p q phase : Phase}
  {ending : Ending τ Ready}

theorem Adopting.uneventful {ending : Ending τ Unit}
    (h : Adopting a w baseUrl start ending now seen) : Uneventful seen := by
  cases h with
  | adopted wait => exact wait.uneventful.append (uneventful_note rfl)
  | rival wait => exact wait.uneventful
  | late wait => exact wait.uneventful
  | disturbed wait => exact wait.uneventful

/-! ## The phase agrees with what was done -/

/-- **An attempt is cut off by a fault**: nothing was started yet, and the last that
is seen of it is a health check whose answer, which was to come from outside, was
that very fault. -/
structure CutOff (w : World τ) (e : Fault τ) (seen : List (τ × Event τ)) : Prop where
  outside : w.Breaks e
  unstarted : started seen = []
  last : lastFault? seen = some e

omit [Seconds τ] in
/-- What was seen before the end makes no difference, if nothing was started in it. -/
theorem cutOff_append_iff {e : Fault τ} (hfirst : started first = []) (hne : seen ≠ []) :
    CutOff w e (first ++ seen) ↔ CutOff w e seen := by
  have hstarted : started (first ++ seen) = started seen := by
    rw [started_append, hfirst, List.nil_append]
  have hlast : lastFault? (first ++ seen) = lastFault? seen := by
    rw [lastFault?, List.getLast?_append_of_ne_nil _ hne, lastFault?]
  exact ⟨fun h => ⟨h.outside, hstarted ▸ h.unstarted, hlast ▸ h.last⟩,
    fun h => ⟨h.outside, hstarted.trans h.unstarted, hlast.trans h.last⟩⟩

omit [Seconds τ] in
/-- An attempt that goes on to another phase is not cut off. -/
theorem not_cutOff_append_moved {e : Fault τ} {old new : Phase} :
    ¬ CutOff w e (seen ++ moved now old new) := by
  intro h
  have hlast := h.last
  rw [lastFault?_append_moved] at hlast
  cases hlast

omit [Seconds τ] in
/-- A health check that is answered with a fault cuts an attempt off, if nothing was
started before. -/
theorem cutOff_append_checked {e : Fault τ} {answer : Answer τ} {timeout later : τ}
    (outside : w.Breaks e) (broken : HealthCheck.verdict answer = .error e)
    (hfirst : started first = []) :
    CutOff w e (first ++ HealthCheck.checked baseUrl timeout now later answer) := by
  cases HealthCheck.verdict_eq_error_iff.mp broken
  exact ⟨outside, by simp [hfirst], by simp⟩

/-- What is seen from the start on is never nothing. -/
theorem Starting.ne_nil (h : Starting a w plan start ending phase seen) : seen ≠ [] := by
  cases h <;> simp [moved]

/-- What is seen from the search on is never nothing. -/
theorem Searching.ne_nil (h : Searching a w baseUrl resources now ending phase seen) :
    seen ≠ [] := by
  cases h <;> simp [moved]

/-- **The phase of an attempt agrees with what was done** from a phase on: how it
has ended, in which phase it was left, and what was seen of it. -/
structure Conforms (w : World τ) (p : Phase) (ending : Ending τ Ready) (phase : Phase)
    (seen : List (τ × Event τ)) : Prop where
  /-- The steps that were told are a way to the phase. -/
  way : Phase.Way p (moves seen) phase
  /-- The attempt is ready exactly if it has returned. -/
  ready_iff : phase = .ready ↔ ∃ ready, ending = .returned ready
  /-- If it raises a launch error, it has failed, unless that error has cut it off: this
  leaves the phase as it is. -/
  failed_iff : ∀ error, ending = .raised (.launch error) →
    (phase = .failed ↔ ¬ CutOff w (.launch error) seen)
  /-- It has come to the start exactly if a process was to be started. -/
  spawning_iff : .spawning ∈ visited seen ↔ started seen ≠ []
  /-- It has come to the wait exactly if a child was started. -/
  waiting_iff : .waitingHealthy ∈ visited seen ↔ ∃ k, some k ∈ started seen
  /-- After the wait for a child it has failed exactly if that child was killed and
  its end was waited for; otherwise nothing was done to it. -/
  reaped_iff : .waitingHealthy ∈ visited seen → ∃ k, started seen = [some k] ∧
    (phase = .failed ↔ calls seen = [(k, .kill), (k, .wait)]) ∧
    (phase ≠ .failed ↔ calls seen = [])

omit [Seconds τ] in
/-- Where nothing was started, the phase agrees with what was done if it agrees
with the steps and with the ending. -/
theorem conforms_of_unstarted {steps : List (Phase × Phase)} (hmoves : moves seen = steps)
    (hway : Phase.Way p steps phase)
    (hsteps : .spawning ∉ steps.map Prod.snd ∧ .waitingHealthy ∉ steps.map Prod.snd)
    (hready : phase = .ready ↔ ∃ ready, ending = .returned ready)
    (hfailed : ∀ error, ending = .raised (.launch error) →
      (phase = .failed ↔ ¬ CutOff w (.launch error) seen))
    (hstarted : started seen = []) : Conforms w p ending phase seen := by
  cases hmoves
  refine ⟨hway, hready, hfailed, iff_of_false hsteps.1 fun h => h hstarted,
    iff_of_false hsteps.2 ?_, fun h => absurd h hsteps.2⟩
  rintro ⟨k, hk⟩
  rw [hstarted] at hk
  cases hk

omit [Seconds τ] in
/-- What was seen before the start makes no difference. -/
theorem Conforms.behind (h : Conforms w q ending phase seen) (hne : seen ≠ [])
    (hway : Phase.Way p (moves first) q) (hspawning : .spawning ∉ visited first)
    (hwaiting : .waitingHealthy ∉ visited first) (hstarted : started first = [])
    (hcalls : calls first = []) : Conforms w p ending phase (first ++ seen) := by
  have hvisited : ∀ r, r ∉ visited first → (r ∈ visited (first ++ seen) ↔ r ∈ visited seen) := by
    intro r hr
    rw [visited_append, List.mem_append]
    exact or_iff_right hr
  have hstarts : started (first ++ seen) = started seen := by
    rw [started_append, hstarted, List.nil_append]
  have hcalled : calls (first ++ seen) = calls seen := by
    rw [calls_append, hcalls, List.nil_append]
  refine ⟨?_, h.ready_iff, fun error herror => ?_, ?_, ?_, ?_⟩
  · rw [moves_append]
    exact hway.trans h.way
  · rw [cutOff_append_iff hstarted hne]
    exact h.failed_iff error herror
  · rw [hvisited _ hspawning, hstarts]
    exact h.spawning_iff
  · rw [hvisited _ hwaiting, hstarts]
    exact h.waiting_iff
  · rw [hvisited _ hwaiting, hstarts, hcalled]
    exact h.reaped_iff

/-- **From the start on** the phase agrees with what was done. -/
theorem Starting.conforms (h : Starting a w plan start ending phase seen) :
    Conforms w .discovering ending phase seen := by
  have hpid : ∀ pid : Int, [(.started pid : Notice τ)].filterMap Notice.move? = [] := fun _ => rfl
  cases h with
  | @refused e outside =>
    -- a refusal fails the attempt, unless it is a wish from outside
    unfold failing phaseAfter
    split
    · refine ⟨?_, by simp, fun _ _ => iff_of_true rfl not_cutOff_append_moved,
        by simp [visited], by simp [visited], by simp [visited]⟩
      simp only [moves_append, moves_moved, moves_launching]
      exact .step .spawn Phase.Next.notSpawned.way
    · next hwish =>
      refine ⟨?_, by simp, fun error herror => ?_, by simp [visited], by simp [visited],
        by simp [visited]⟩
      · simp only [moves_append, moves_moved, moves_launching]
        exact Phase.Next.spawn.way
      · rw [Ending.raised.inj herror] at hwish
        exact absurd rfl hwish
  | adopted k pid adopting =>
    -- the wait itself is no step, so three steps were told, and the last says how it ended
    refine ⟨?_, by simp, ?_, by simp [visited, hpid], ?_, fun _ => ⟨k, ?_, ?_, ?_⟩⟩
    · simp only [moves_append, moves_moved, moves_launching, moves_telling, hpid,
        adopting.uneventful.moves]
      exact .step .spawn (.step .await Phase.Next.healthy.way)
    · rintro _ ⟨⟩
    · exact iff_of_true (by simp [visited, hpid]) ⟨k, by simp⟩
    · simp [adopting.started_eq_nil]
    · simp [adopting.uneventful.calls]
    · simp [adopting.uneventful.calls]
  | givenUp k pid pid' later adopting =>
    refine ⟨?_, by simp, fun _ _ => iff_of_true rfl not_cutOff_append_moved,
      by simp [visited, hpid], ?_, fun _ => ⟨k, ?_, ?_, ?_⟩⟩
    · simp only [moves_append, moves_moved, moves_launching, moves_telling, moves_givingUp,
        hpid, adopting.uneventful.moves]
      exact .step .spawn (.step .await Phase.Next.unhealthy.way)
    · exact iff_of_true (by simp [visited, hpid]) ⟨k, by simp⟩
    · simp [adopting.started_eq_nil]
    · simp [adopting.uneventful.calls]
    · simp [adopting.uneventful.calls]

/-- **From the search on** the phase agrees with what was done. -/
theorem Searching.conforms (h : Searching a w baseUrl resources now ending phase seen) :
    Conforms w .unchecked ending phase seen := by
  have htold : (a.search w baseUrl resources).notices.filterMap Notice.move? = [] :=
    (Discovery.looksUp_plan _ _ _ _ _ _).filterMap_move?
  cases h with
  | @failed e found =>
    unfold failing phaseAfter
    split
    · exact conforms_of_unstarted (by simp [htold]) (.step .discover Phase.Next.notDiscovered.way)
        (by decide) (by simp) (fun _ _ => iff_of_true rfl not_cutOff_append_moved) (by simp)
    · next hwish =>
      refine conforms_of_unstarted (by simp [htold]) Phase.Next.discover.way (by decide)
        (by simp) (fun error herror => ?_) (by simp)
      cases herror
      exact absurd rfl hwish
  | broken later found broken outside =>
    refine conforms_of_unstarted (by simp [htold]) Phase.Next.discover.way (by decide)
      (by simp) (fun error herror => ?_) (by simp)
    cases herror
    exact iff_of_false (by decide) (not_not_intro (cutOff_append_checked outside broken (by simp)))
  | cameUp later found healthy =>
    exact conforms_of_unstarted (by simp [htold, Notice.move?])
      (.step .discover Phase.Next.foundMeanwhile.way) (by decide) (by simp) (by rintro _ ⟨⟩)
      (by simp)
  | launched found unhealthy starting =>
    refine starting.conforms.behind starting.ne_nil ?_ (by simp [visited, htold])
      (by simp [visited, htold]) (by simp) (by simp)
    simpa [htold] using Phase.Next.discover.way

/-- **The phase of an attempt agrees with what was done** from the beginning on. -/
theorem Course.conforms (h : Course a w resources ending phase seen) :
    Conforms w .unchecked ending phase seen := by
  have htold : (a.address w).notices.filterMap Notice.move? = [] :=
    (Address.looksUp_choose _ _ _ _).filterMap_move?
  cases h with
  | unaddressed address =>
    refine conforms_of_unstarted (by simp [htold]) (.stay _) (by decide) (by simp)
      (fun error herror => ?_) (by simp)
    cases herror
    exact absurd rfl (((Address.looksUp_choose _ _ _ _).failure _ address).ne_launch error)
  | unusable address unusable =>
    exact conforms_of_unstarted (by simp [htold]) Phase.Next.refuse.way (by decide) (by simp)
      (fun _ _ => iff_of_true rfl not_cutOff_append_moved) (by simp)
  | broken later address usable broken outside =>
    refine conforms_of_unstarted (by simp [htold]) (.stay _) (by decide) (by simp)
      (fun error herror => ?_) (by simp)
    cases herror
    exact iff_of_false (by decide) (not_not_intro (cutOff_append_checked outside broken (by simp)))
  | running later address usable healthy =>
    exact conforms_of_unstarted (by simp [htold, Notice.move?]) Phase.Next.found.way (by decide)
      (by simp) (by rintro _ ⟨⟩) (by simp)
  | searched address usable unhealthy searching =>
    refine searching.conforms.behind searching.ne_nil ?_ (by simp [visited, htold])
      (by simp [visited, htold]) (by simp) (by simp)
    simpa [htold] using Phase.Way.stay .unchecked

omit [Seconds τ] in
/-- An attempt that is cut off is left before the search or in it. -/
theorem Conforms.phase_of_cutOff {error : LaunchError τ}
    (h : Conforms w .unchecked (.raised (.launch error)) phase seen)
    (hcut : CutOff w (.launch error) seen) : phase = .unchecked ∨ phase = .discovering := by
  have hready : phase ≠ .ready := fun hp => by
    obtain ⟨ready, hready⟩ := h.ready_iff.mp hp
    cases hready
  have hfailed : phase ≠ .failed := fun hp => (h.failed_iff error rfl).mp hp hcut
  have hspawning : .spawning ∉ visited seen := fun hp => h.spawning_iff.mp hp hcut.unstarted
  have hwaiting : .waitingHealthy ∉ visited seen := fun hp => by
    obtain ⟨k, hk⟩ := h.waiting_iff.mp hp
    rw [hcut.unstarted] at hk
    cases hk
  rcases h.way.eq_or_mem with hp | hp
  · exact .inl hp
  · cases phase with
    | unchecked => exact .inl rfl
    | discovering => exact .inr rfl
    | spawning => exact absurd hp hspawning
    | waitingHealthy => exact absurd hp hwaiting
    | ready => exact absurd rfl hready
    | failed => exact absurd rfl hfailed

end Attempt

end LocalServer
