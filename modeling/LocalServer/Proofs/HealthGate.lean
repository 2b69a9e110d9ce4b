import LocalServer.Proofs.Course
import LocalServer.Proofs.Lookups

/-!
# Attempts are gated by health checks

What an attempt does hangs on the answers to its health checks. It asks one
server only, the one at the base address that it has found in the beginning;
it starts a server only after that one was asked twice in vain, once before
the runtime was looked for and once afterwards; and it ends well only if the
last answer was the right one. A server that was started is given up on for
its silence only when it never answered well and the time was up
(`Attempt.IsGated`).

All of this is read off the grammar of an attempt: of each part of it is known
what was asked and answered in it (`World.asked`), and which starts were seen
(`World.started`).
-/

namespace LocalServer

open Act World

variable {τ : Type}

/-! ## Questions and starts -/

/-- **The question and the answer** of a health check. -/
def Event.exchange? : Event τ → Option (String × Answer τ)
  | .probe url _ _ answer => some (url, answer)
  | _ => none

/-- The child of a start, unless it was refused. -/
def Event.start? : Event τ → Option (Option ChildId)
  | .spawn _ _ _ child => some child
  | _ => none

namespace World

/-- **What was asked and answered**, in the order of time. -/
def asked (seen : List (τ × Event τ)) : List (String × Answer τ) :=
  seen.filterMap fun e => e.2.exchange?

/-- **The starts** that were seen, those that were refused among them. -/
def started (seen : List (τ × Event τ)) : List (Option ChildId) :=
  seen.filterMap fun e => e.2.start?

section Simp

variable {seen seen' : List (τ × Event τ)} {now : τ} {n : Notice τ}

@[simp] theorem asked_nil : asked ([] : List (τ × Event τ)) = [] := rfl

@[simp] theorem started_nil : started ([] : List (τ × Event τ)) = [] := rfl

@[simp] theorem asked_append : asked (seen ++ seen') = asked seen ++ asked seen' :=
  List.filterMap_append

@[simp] theorem started_append : started (seen ++ seen') = started seen ++ started seen' :=
  List.filterMap_append

@[simp] theorem asked_note : asked ((now, .notice n) :: seen) = asked seen := rfl

@[simp] theorem started_note : started ((now, .notice n) :: seen) = started seen := rfl

@[simp] theorem asked_sleep {pause : τ} : asked [(now, .sleep pause)] = [] := rfl

@[simp] theorem started_sleep {pause : τ} : started [(now, .sleep pause)] = [] := rfl

@[simp] theorem asked_telling (notices : List (Notice τ)) : asked (telling now notices) = [] :=
  List.filterMap_eq_nil_iff.mpr fun e he => by
    obtain ⟨n, -, rfl⟩ := List.mem_map.mp he
    rfl

@[simp] theorem started_telling (notices : List (Notice τ)) : started (telling now notices) = [] :=
  List.filterMap_eq_nil_iff.mpr fun e he => by
    obtain ⟨n, -, rfl⟩ := List.mem_map.mp he
    rfl

@[simp] theorem asked_checked (baseUrl : String) (timeout later : τ) (answer : Answer τ) :
    asked (HealthCheck.checked baseUrl timeout now later answer)
      = [(HealthCheck.url baseUrl, answer)] := by
  rw [HealthCheck.checked, asked_append, asked_telling]
  rfl

@[simp] theorem started_checked (baseUrl : String) (timeout later : τ) (answer : Answer τ) :
    started (HealthCheck.checked baseUrl timeout now later answer) = [] := by
  rw [HealthCheck.checked, started_append, started_telling]
  rfl

@[simp] theorem asked_moved (old new : Phase) : asked (Attempt.moved now old new) = [] := rfl

@[simp] theorem started_moved (old new : Phase) : started (Attempt.moved now old new) = [] := rfl

@[simp] theorem asked_failing (e : Fault τ) (old : Phase) :
    asked (Attempt.failing e now old) = [] := by
  unfold Attempt.failing
  split <;> rfl

@[simp] theorem started_failing (e : Fault τ) (old : Phase) :
    started (Attempt.failing e now old) = [] := by
  unfold Attempt.failing
  split <;> rfl

@[simp] theorem asked_launching (keeper : Keeper τ) (plan : LaunchPlan) (child : Option ChildId) :
    asked (keeper.launching plan now child) = [] := rfl

@[simp] theorem started_launching (keeper : Keeper τ) (plan : LaunchPlan)
    (child : Option ChildId) : started (keeper.launching plan now child) = [child] := rfl

@[simp] theorem asked_givingUp (k : ChildId) (pid : Int) :
    asked (Keeper.givingUp k pid now) = [] := rfl

@[simp] theorem started_givingUp (k : ChildId) (pid : Int) :
    started (Keeper.givingUp k pid now) = [] := rfl

end Simp

/-- **That a server is silent is never said from outside**: no answer, no
interruption and no refusal is this launch error. Other faults, and other launch
errors among them, may come from anywhere. -/
structure RaisesNoSilence (w : World τ) : Prop where
  answers : ∀ baseUrl timeout, ¬ w.Breaks (.launch (.silent baseUrl timeout))
  interruptions : ∀ baseUrl timeout, ¬ w.Interrupts (.launch (.silent baseUrl timeout))
  refusals : ∀ baseUrl timeout, ¬ w.Refuses (.launch (.silent baseUrl timeout))

end World

/-- An answer that does not count as healthy is not the right one. -/
theorem HealthCheck.ne_of_verdict {answer : Answer τ} (h : verdict answer = .ok false) :
    answer ≠ .status healthyStatus := by
  rintro rfl
  cases h

/-- Nor is one that is a fault. -/
theorem HealthCheck.ne_of_verdict_error {answer : Answer τ} {e : Fault τ}
    (h : verdict answer = .error e) : answer ≠ .status healthyStatus := by
  rintro rfl
  cases h

namespace World

/-- **The last question was asked in vain**, if any was asked. -/
def EndsInVain (seen : List (τ × Event τ)) : Prop :=
  ∀ q ∈ (asked seen).getLast?, q.2 ≠ .status HealthCheck.healthyStatus

variable {seen seen' : List (τ × Event τ)}

theorem EndsInVain.of_forall (h : ∀ q ∈ asked seen, q.2 ≠ .status HealthCheck.healthyStatus) :
    EndsInVain seen :=
  fun q hq => h q (List.mem_of_getLast? hq)

/-- Where nothing was asked, there is no last question. -/
theorem EndsInVain.of_nil (h : asked seen = []) : EndsInVain seen :=
  .of_forall fun q hq => by
    rw [h] at hq
    cases hq

theorem EndsInVain.append (h : EndsInVain seen) (h' : EndsInVain seen') :
    EndsInVain (seen ++ seen') := by
  intro q hq
  rw [asked_append, List.getLast?_append] at hq
  cases hlast : (asked seen').getLast? with
  | some q' =>
    rw [hlast, Option.some_or] at hq
    exact h' q (hlast ▸ hq)
  | none =>
    rw [hlast, Option.none_or] at hq
    exact h q hq

theorem endsInVain_checked {baseUrl : String} {timeout now later : τ} {answer : Answer τ}
    (h : answer ≠ .status HealthCheck.healthyStatus) :
    EndsInVain (HealthCheck.checked baseUrl timeout now later answer) :=
  .of_forall fun q hq => by
    rw [asked_checked, List.mem_singleton] at hq
    rw [hq]
    exact h

end World

variable [Seconds τ]

/-! ## The wait -/

namespace HealthCheck

variable {baseUrl : String} {timeout interval start now : τ} {w : World τ}
  {seen : List (τ × Event τ)} {ending : Ending τ Bool}

/-- In each round of the wait one server is asked, in vain. -/
theorem Rounds.asked_in_vain (h : Rounds baseUrl timeout interval start seen) :
    ∀ q ∈ asked seen, q.1 = url baseUrl ∧ q.2 ≠ .status healthyStatus := by
  induction h with
  | none => exact fun _ hq => absurd hq List.not_mem_nil
  | more _ _ unhealthy ih =>
    intro q hq
    simp only [asked_append, asked_checked, asked_sleep, List.append_nil] at hq
    rcases List.mem_append.mp hq with hq | hq
    · exact ih q hq
    · rw [List.mem_singleton.mp hq]
      exact ⟨rfl, ne_of_verdict unhealthy⟩

theorem Rounds.started_eq_nil (h : Rounds baseUrl timeout interval start seen) :
    started seen = [] := by
  induction h with
  | none => rfl
  | more _ _ _ ih => simp [ih]

/-- Nothing is started in a wait. -/
theorem Awaited.started_eq_nil (h : Awaited baseUrl timeout interval start w ending now seen) :
    started seen = [] := by
  cases h with
  | healthy before => simp [before.started_eq_nil]
  | late before => exact before.started_eq_nil
  | broken before => simp [before.started_eq_nil]
  | interrupted before => simp [before.started_eq_nil]

/-- One server is asked in a wait. -/
theorem Awaited.asked_one (h : Awaited baseUrl timeout interval start w ending now seen) :
    ∀ q ∈ asked seen, q.1 = url baseUrl := by
  -- but for the end, a wait is its rounds and perhaps one question more
  have hlast : ∀ {seen : List (τ × Event τ)} {answer : Answer τ},
      Rounds baseUrl timeout interval start seen →
      ∀ q ∈ asked seen ++ [(url baseUrl, answer)], q.1 = url baseUrl := by
    intro seen answer before q hq
    rcases List.mem_append.mp hq with hq | hq
    · exact (before.asked_in_vain q hq).1
    · rw [List.mem_singleton.mp hq]
  cases h with
  | healthy before => simpa using hlast before
  | late before => exact fun q hq => (before.asked_in_vain q hq).1
  | broken before => simpa using hlast before
  | interrupted before => simpa using hlast before

/-- A wait that is not in vain ends with the right answer. -/
theorem Awaited.healthy_last
    (h : Awaited baseUrl timeout interval start w (.returned true) now seen) :
    (asked seen).getLast? = some (url baseUrl, .status healthyStatus) := by
  cases h with
  | healthy _ _ healthy => simp [verdict_eq_true_iff.mp healthy]

/-- A wait in vain ends when the time is up. -/
theorem Awaited.in_vain (h : Awaited baseUrl timeout interval start w (.returned false) now seen) :
    ¬ now - start < timeout ∧ ∀ q ∈ asked seen, q.2 ≠ .status healthyStatus := by
  cases h with
  | late before late => exact ⟨late, fun q hq => (before.asked_in_vain q hq).2⟩

/-- A wait that raises a fault was in vain to the last. -/
theorem Awaited.endsInVain {e : Fault τ}
    (h : Awaited baseUrl timeout interval start w (.raised e) now seen) : EndsInVain seen := by
  have hrounds : ∀ {seen}, Rounds baseUrl timeout interval start seen → EndsInVain seen :=
    fun before => .of_forall fun q hq => (before.asked_in_vain q hq).2
  cases h with
  | broken before _ broken =>
    exact (hrounds before).append (endsInVain_checked (ne_of_verdict_error broken))
  | interrupted before _ unhealthy =>
    exact ((hrounds before).append (endsInVain_checked (ne_of_verdict unhealthy))).append
      (.of_nil rfl)

/-- A wait raises only faults from outside. -/
theorem Awaited.outside {e : Fault τ}
    (h : Awaited baseUrl timeout interval start w (.raised e) now seen) :
    w.Breaks e ∨ w.Interrupts e := by
  cases h with
  | broken _ _ _ outside => exact Or.inl outside
  | interrupted _ _ _ outside => exact Or.inr outside

end HealthCheck

/-! ## From the start on -/

omit [Seconds τ] in
/-- A refusal is never told as silence, unless it was that before. -/
theorem Keeper.eq_of_startError_silent {e : Fault τ} {b : String} {t : τ}
    (h : startError e = .launch (.silent b t)) : e = .launch (.silent b t) := by
  unfold startError at h
  split at h
  · split at h <;> cases h
  · exact h

namespace Attempt

variable {a : Attempt τ} {w : World τ} {baseUrl : String} {start now : τ} {resources : Option Path}
  {plan : LaunchPlan} {seen : List (τ × Event τ)} {phase : Phase}

theorem Adopting.started_eq_nil {ending : Ending τ Unit}
    (h : Adopting a w baseUrl start ending now seen) : started seen = [] := by
  cases h with
  | adopted wait => simp [wait.started_eq_nil]
  | rival wait => exact wait.started_eq_nil
  | late wait => exact wait.started_eq_nil
  | disturbed wait => exact wait.started_eq_nil

theorem Adopting.asked_one {ending : Ending τ Unit}
    (h : Adopting a w baseUrl start ending now seen) :
    ∀ q ∈ asked seen, q.1 = HealthCheck.url baseUrl := by
  cases h with
  | adopted wait => simpa using wait.asked_one
  | rival wait => exact wait.asked_one
  | late wait => exact wait.asked_one
  | disturbed wait => exact wait.asked_one

theorem Adopting.healthy_last (h : Adopting a w baseUrl start (.returned ()) now seen) :
    (asked seen).getLast? = some (HealthCheck.url baseUrl, .status HealthCheck.healthyStatus) := by
  cases h with
  | adopted wait => simpa using wait.healthy_last

/-- **A child is given up on for its silence** when the time is up and no
answer was the right one. -/
theorem Adopting.in_vain {b : String} {t : τ} (hw : w.RaisesNoSilence)
    (h : Adopting a w baseUrl start (.raised (.launch (.silent b t))) now seen) :
    b = baseUrl ∧ t = a.patience ∧ ¬ now - start < a.patience ∧
      ∀ q ∈ asked seen, q.2 ≠ .status HealthCheck.healthyStatus := by
  cases h with
  | late wait => exact ⟨rfl, rfl, wait.in_vain⟩
  | disturbed wait =>
    rcases wait.outside with hb | hi
    · exact absurd hb (hw.answers _ _)
    · exact absurd hi (hw.interruptions _ _)

/-- A keeper that is in charge of none refuses no healthy server. -/
theorem Adopting.endsInVain {e : Fault τ} (hfree : w.kept = none)
    (h : Adopting a w baseUrl start (.raised e) now seen) : EndsInVain seen := by
  cases h with
  | rival wait kept =>
    rw [hfree] at kept
    cases kept
  | late wait => exact .of_forall wait.in_vain.2
  | disturbed wait => exact wait.endsInVain

theorem Starting.asked_one {ending : Ending τ Ready}
    (h : Starting a w plan start ending phase seen) :
    ∀ q ∈ asked seen, q.1 = HealthCheck.url plan.baseUrl := by
  cases h with
  | refused => simp
  | adopted k pid adopting => simpa using adopting.asked_one
  | givenUp k pid pid' later adopting => simpa using adopting.asked_one

/-- **A start is seen at once**, and no other one. -/
theorem Starting.eq_start {ending : Ending τ Ready}
    (h : Starting a w plan start ending phase seen) :
    ∃ child rest, started rest = [] ∧
      seen = moved start .discovering .spawning
        ++ telling start [.starting plan.command plan.root] ++
        (start, .spawn plan.command plan.root.toText a.keeper.platform.creationFlags? child)
          :: rest := by
  cases h with
  | refused => exact ⟨none, _, started_failing _ _, rfl⟩
  | adopted k pid adopting =>
    refine ⟨some k, _, ?_, by simp only [List.append_assoc]; rfl⟩
    simp [adopting.started_eq_nil]
  | givenUp k pid pid' later adopting =>
    refine ⟨some k, _, ?_, by simp only [List.append_assoc]; rfl⟩
    simp [adopting.started_eq_nil]

theorem Starting.healthy_last {ready : Ready}
    (h : Starting a w plan start (.returned ready) phase seen) :
    ready.baseUrl = plan.baseUrl ∧ (asked seen).getLast?
      = some (HealthCheck.url plan.baseUrl, .status HealthCheck.healthyStatus) := by
  cases h with
  | adopted k pid adopting => exact ⟨rfl, by simpa using adopting.healthy_last⟩

theorem Starting.endsInVain {e : Fault τ} (hfree : w.kept = none)
    (h : Starting a w plan start (.raised e) phase seen) : EndsInVain seen := by
  -- the fault of a refusal is no variable, so the ending gets a name before the cases
  generalize hending : (Ending.raised e : Ending τ Ready) = ending at h
  cases h with
  | refused => exact .of_nil (by simp)
  | adopted k pid adopting => cases hending
  | givenUp k pid pid' later adopting =>
    exact (((EndsInVain.of_nil rfl).append (adopting.endsInVain hfree)).append
      (.of_nil rfl)).append (.of_nil rfl)

/-- A server that was started is given up on for its silence after the time
that was meant for it. -/
theorem Starting.in_vain {b : String} {t : τ} (hw : w.RaisesNoSilence)
    (h : Starting a w plan start (.raised (.launch (.silent b t))) phase seen) :
    b = plan.baseUrl ∧ t = a.patience ∧
      (∀ q ∈ asked seen, q.2 ≠ .status HealthCheck.healthyStatus) ∧
      ∃ k pid now, started seen = [some k] ∧
        (start, .notice (.phaseChanged .spawning .waitingHealthy)) ∈ seen ∧
        (now, .call k pid .kill) ∈ seen ∧ ¬ now - start < a.patience := by
  generalize hending : (Ending.raised (.launch (.silent b t)) : Ending τ Ready) = ending at h
  cases h with
  | refused outside =>
    rw [Keeper.eq_of_startError_silent (Ending.raised.inj hending).symm] at outside
    exact absurd outside (hw.refusals _ _)
  | adopted k pid adopting => cases hending
  | @givenUp k pid pid' later now _ _ adopting =>
    cases hending
    obtain ⟨hb, ht, hlate, hvain⟩ := adopting.in_vain hw
    refine ⟨hb, ht, by simpa using hvain, k, pid', now, by simp [adopting.started_eq_nil], ?_, ?_,
      hlate⟩
    · simp [moved]
    · simp [Keeper.givingUp]

/-! ## From the search on -/

theorem Searching.asked_one {ending : Ending τ Ready}
    (h : Searching a w baseUrl resources now ending phase seen) :
    ∀ q ∈ asked seen, q.1 = HealthCheck.url baseUrl := by
  cases h with
  | failed => simp
  | broken later found =>
    rw [← Discovery.baseUrl_of_plan found]
    simp
  | cameUp later found =>
    rw [← Discovery.baseUrl_of_plan found]
    simp
  | launched found unhealthy starting =>
    rw [← Discovery.baseUrl_of_plan found]
    simpa using starting.asked_one

theorem Searching.healthy_last {ready : Ready}
    (h : Searching a w baseUrl resources now (.returned ready) phase seen) :
    ready.baseUrl = baseUrl ∧ (asked seen).getLast?
      = some (HealthCheck.url baseUrl, .status HealthCheck.healthyStatus) := by
  cases h with
  | cameUp later found healthy =>
    rw [← Discovery.baseUrl_of_plan found]
    simp [HealthCheck.verdict_eq_true_iff.mp healthy]
  | launched found unhealthy starting =>
    rw [← Discovery.baseUrl_of_plan found]
    obtain ⟨hready, hlast⟩ := starting.healthy_last
    exact ⟨hready, by simp [List.getLast?_cons, hlast]⟩

theorem Searching.endsInVain {e : Fault τ} (hfree : w.kept = none)
    (h : Searching a w baseUrl resources now (.raised e) phase seen) : EndsInVain seen := by
  cases h with
  | failed => exact .of_nil (by simp)
  | broken later found broken =>
    exact (EndsInVain.of_nil (by simp)).append
      (endsInVain_checked (HealthCheck.ne_of_verdict_error broken))
  | launched found unhealthy starting =>
    exact ((EndsInVain.of_nil (by simp)).append
      (endsInVain_checked (HealthCheck.ne_of_verdict unhealthy))).append
      (starting.endsInVain hfree)

/-- **The only start**, if there is one, comes after the search has found the
runtime and one question was asked in vain. -/
theorem Searching.eq_start {ending : Ending τ Ready}
    (h : Searching a w baseUrl resources now ending phase seen) :
    started seen = [] ∨ ∃ plan second rest start child answer,
      (a.search w baseUrl resources).outcome = .ok plan ∧
      seen = moved now .unchecked .discovering
        ++ telling now (a.search w baseUrl resources).notices ++ second
        ++ (start, .spawn plan.command plan.root.toText a.keeper.platform.creationFlags? child)
          :: rest ∧
      started second = [] ∧ started rest = [] ∧
      asked second = [(HealthCheck.url baseUrl, answer)] ∧
      answer ≠ .status HealthCheck.healthyStatus := by
  cases h with
  | failed => simp
  | broken => simp
  | cameUp => simp
  | @launched later plan answer _ _ _ found unhealthy starting =>
    obtain ⟨child, rest, hrest, hseen⟩ := starting.eq_start
    -- all that is seen between the search and the start is one question
    refine Or.inr ⟨plan, HealthCheck.checked plan.baseUrl a.pollInterval now later answer
      ++ moved later .discovering .spawning ++ telling later [.starting plan.command plan.root],
      rest, later, child, answer, found, ?_, by simp, hrest, ?_,
      HealthCheck.ne_of_verdict unhealthy⟩
    · rw [hseen]
      simp only [List.append_assoc]
    · rw [← Discovery.baseUrl_of_plan found]
      simp

theorem Searching.in_vain {b : String} {t : τ} (hw : w.RaisesNoSilence)
    (h : Searching a w baseUrl resources now (.raised (.launch (.silent b t))) phase seen) :
    b = baseUrl ∧ t = a.patience ∧
      (∀ q ∈ asked seen, q.2 ≠ .status HealthCheck.healthyStatus) ∧
      ∃ k pid start late, started seen = [some k] ∧
        (start, .notice (.phaseChanged .spawning .waitingHealthy)) ∈ seen ∧
        (late, .call k pid .kill) ∈ seen ∧ ¬ late - start < a.patience := by
  cases h with
  | failed found =>
    cases (Discovery.looksUp_plan _ _ _ _ _ _).failure _ found
  | broken later found broken outside => exact absurd outside (hw.answers _ _)
  | @launched later plan answer _ _ _ found unhealthy starting =>
    obtain ⟨hb, ht, hvain, k, pid, late, hk, hstart, hkill, hlate⟩ := starting.in_vain hw
    refine ⟨hb.trans (Discovery.baseUrl_of_plan found), ht, ?_, k, pid, later, late,
      by simpa using hk, List.mem_append_right _ hstart, List.mem_append_right _ hkill, hlate⟩
    simpa [HealthCheck.ne_of_verdict unhealthy] using hvain

/-! ## The whole attempt -/

/-- **An attempt is gated** by the health checks of the server at a base
address, given how it has ended and what was seen of it. -/
structure IsGated (a : Attempt Rat) (w : World Rat) (resources : Option Path) (baseUrl : String)
    (ending : Ending Rat Ready) (seen : List (Rat × Event Rat)) : Prop where
  /-- No other server is ever asked. -/
  asked_one : ∀ q ∈ asked seen, q.1 = HealthCheck.url baseUrl
  /-- If the attempt returns, then with that server, which has given the right
  answer at last. -/
  healthy_last : ∀ ready, ending = .returned ready → ready.baseUrl = baseUrl ∧
    (asked seen).getLast? = some (HealthCheck.url baseUrl, .status HealthCheck.healthyStatus)
  /-- If it raises a fault, and the keeper was in charge of none, then the last
  question was asked in vain. -/
  endsInVain : w.kept = none → ∀ e, ending = .raised e → EndsInVain seen
  /-- There is at most one start, and it carries out what the search has found.
  Before the search one question was asked, and one more after it, and neither
  answer was the right one. -/
  eq_start : started seen = [] ∨ ∃ plan first second rest searched start child answer answer',
    (a.search w baseUrl resources).outcome = .ok plan ∧
    seen = first ++ telling searched (a.search w baseUrl resources).notices ++ second
      ++ (start, .spawn plan.command plan.root.toText a.keeper.platform.creationFlags? child)
        :: rest ∧
    started first = [] ∧ started second = [] ∧ started rest = [] ∧
    asked first = [(HealthCheck.url baseUrl, answer)] ∧
    answer ≠ .status HealthCheck.healthyStatus ∧
    asked second = [(HealthCheck.url baseUrl, answer')] ∧
    answer' ≠ .status HealthCheck.healthyStatus
  /-- An address of no use is not asked, and nothing is started for it. -/
  unusable : BaseUrl.isUsable baseUrl = false → asked seen = [] ∧ started seen = []
  /-- An attempt that is given up for the silence of the server has started it,
  never got the right answer, and has waited as long as it should between the
  beginning of the wait and the kill. The condition leaves nothing out that the
  attempt does itself: all that it excludes is that this very launch error, which
  only an attempt has reason to raise, comes from outside, as the answer to a
  question, in a pause, or instead of a start. -/
  in_vain : w.RaisesNoSilence → ∀ b t, ending = .raised (.launch (.silent b t)) →
    b = baseUrl ∧ t = a.patience ∧
    (∀ q ∈ asked seen, q.2 ≠ .status HealthCheck.healthyStatus) ∧
    ∃ k pid start late, started seen = [some k] ∧
      (start, .notice (.phaseChanged .spawning .waitingHealthy)) ∈ seen ∧
      (late, .call k pid .kill) ∈ seen ∧ a.patience ≤ late - start

/-- What follows the course of an attempt is gated, once there is a base
address. -/
theorem Course.isGated {a : Attempt Rat} {w : World Rat} {ending : Ending Rat Ready}
    {seen : List (Rat × Event Rat)} (h : Course a w resources ending phase seen)
    (haddress : (a.address w).outcome = .ok baseUrl) :
    IsGated a w resources baseUrl ending seen := by
  have hsame : ∀ {b}, (a.address w).outcome = .ok b → b = baseUrl :=
    fun hb => Except.ok.inj (hb.symm.trans haddress)
  cases h with
  | unaddressed address => cases address.symm.trans haddress
  | unusable address unusable =>
    cases hsame address
    refine ⟨by simp, by rintro _ ⟨⟩, fun _ _ _ => .of_nil (by simp), by simp, by simp, ?_⟩
    rintro - b t ⟨⟩
  | broken later address usable broken outside =>
    cases hsame address
    refine ⟨by simp, by rintro _ ⟨⟩, fun _ _ _ => ?_, by simp, by simp [usable], ?_⟩
    · exact (EndsInVain.of_nil (by simp)).append
        (endsInVain_checked (HealthCheck.ne_of_verdict_error broken))
    · rintro hw b t ⟨⟩
      exact absurd outside (hw.answers _ _)
  | running later address usable healthy =>
    cases hsame address
    refine ⟨by simp, ?_, by rintro _ _ ⟨⟩, by simp, by simp [usable], by rintro - b t ⟨⟩⟩
    rintro _ ⟨⟩
    simp [HealthCheck.verdict_eq_true_iff.mp healthy]
  | @searched later _ _ _ _ address usable unhealthy searching =>
    cases hsame address
    refine ⟨by simpa using searching.asked_one, ?_, ?_, ?_, by simp [usable], ?_⟩
    · rintro ready rfl
      obtain ⟨hready, hlast⟩ := searching.healthy_last
      exact ⟨hready, by simp [List.getLast?_cons, hlast]⟩
    · rintro hfree e rfl
      exact ((EndsInVain.of_nil (by simp)).append
        (endsInVain_checked (HealthCheck.ne_of_verdict unhealthy))).append
        (searching.endsInVain hfree)
    · -- the question before the search is the one that the attempt begins with
      refine searching.eq_start.imp (fun hnone => by simpa using hnone) ?_
      rintro ⟨plan, second, rest, start, child, answer, hplan, hseen, hsecond, hrest, hasked, ha⟩
      refine ⟨plan, telling w.clock (a.address w).notices
        ++ HealthCheck.checked baseUrl a.pollInterval w.clock later w.upcoming.answer
        ++ moved later .unchecked .discovering, second, rest, later, start, child,
        w.upcoming.answer, answer, hplan, ?_, by simp, hsecond, hrest, by simp,
        HealthCheck.ne_of_verdict unhealthy, hasked, ha⟩
      rw [hseen]
      simp only [List.append_assoc]
    · rintro hw b t rfl
      obtain ⟨hb, ht, hvain, k, pid, start, late, hk, hstart, hkill, hlate⟩ := searching.in_vain hw
      refine ⟨hb, ht, ?_, k, pid, start, late, by simpa using hk,
        List.mem_append_right _ hstart, List.mem_append_right _ hkill, not_lt.mp hlate⟩
      simpa [HealthCheck.ne_of_verdict unhealthy] using hvain

/-- **Every attempt is gated by health checks**, in whatever world it is made
and however it ends, by those of the server at the one base address that it
has found in the beginning. If it has found none, that is its end, and nothing
was asked or started. -/
theorem makeReady_is_gated (a : Attempt Rat) (resources : Option Path) {w w' : World Rat}
    {ending : Ending Rat Ready} (hrun : (a.makeReady resources).run w = some (ending, w')) :
    ∃ seen, w'.timeline = w.timeline ++ seen ∧
      match (a.address w).outcome with
      | .error e => ending = .raised e ∧ asked seen = [] ∧ started seen = []
      | .ok baseUrl => IsGated a w resources baseUrl ending seen := by
  obtain ⟨seen, hseen, hcourse⟩ := exists_course_of_run hrun
  refine ⟨seen, hseen, ?_⟩
  cases haddress : (a.address w).outcome with
  | ok baseUrl => exact hcourse.isGated haddress
  | error e =>
    obtain ⟨hending, rfl⟩ := hcourse.of_unaddressed haddress
    exact ⟨hending, asked_telling _, started_telling _⟩

/-- An attempt that starts a server and waits for it in vain. -/
theorem makeReady_is_gated_of_silence :
    let a : Attempt Rat := .usual .linux (some "http://127.0.0.1:4567")
    let java := ((FileTree.empty []).insert (.ofString "/app/jre/bin/java") (.file .empty)).1
    let files := (java.insert (.ofString "/app/bin/Suwayomi-Server.jar") (.file .empty)).1
    let w : World Rat := { World.still 0 files ⟨[], none⟩ with
      executable := "/app/launcher"
      probes := [⟨none, .status 503⟩] }
    w.RaisesNoSilence ∧ ∃ ending w', (a.makeReady none).run w = some (ending, w') ∧
      ∃ seen, w'.timeline = w.timeline ++ seen ∧
        match (a.address w).outcome with
        | .error e => ending = .raised e ∧ asked seen = [] ∧ started seen = []
        | .ok baseUrl => IsGated a w none baseUrl ending seen := by
  intro a java files w
  have hw : w.IsForward := by
    intro p hmem cost hcost
    cases List.mem_singleton.mp hmem
    cases hcost
  obtain ⟨ending, w', hrun⟩ :=
    (ends_makeReady (by decide +kernel : 0 < a.pollInterval) hw none).exists_run
  refine ⟨⟨?_, ?_, ?_⟩, ending, w', hrun, makeReady_is_gated a none hrun⟩
  · rintro b t ⟨p, hmem, hbroken⟩
    cases List.mem_singleton.mp hmem
    cases hbroken
  · rintro b t ⟨n, hn⟩
    cases hn
  · rintro b t ⟨script, hscript, -⟩
    cases hscript

end Attempt

end LocalServer
