import LocalServer.Proofs.Bootstrap
import LocalServer.Proofs.Interruption

/-!
# The course of an attempt

All that is seen of a bootstrap attempt, from the first notice to the last,
follows one grammar (`Attempt.Course`): a health check, the search for the
runtime, another health check, the start of a server, the rounds of the wait
for it, and then the server is adopted or given up on. At each point the
attempt may end, and the grammar says for each of its ends what was seen
before, with which value or fault it has ended, and in which phase. What can
be said of single attempts – which server is asked, when one is started, what
an attempt can fail with – can be read off the grammar.

A fault comes from the attempt itself or from outside, and what can come from
outside is settled in the world in which the attempt begins: nothing that is
done in an attempt adds to it (`World.Foresees`).
-/

namespace LocalServer

open Act World

variable {τ : Type}

/-! ## What is to come -/

namespace World

/-- **A fault that an answer may be**, of those that are to come. -/
def Breaks (w : World τ) (e : Fault τ) : Prop :=
  ∃ p ∈ w.answers, p.answer = .broken e

/-- **A fault that an interruption may raise.** -/
def Interrupts (w : World τ) (e : Fault τ) : Prop :=
  ∃ n, w.faultAt n = some e

/-- **A fault with which a start may be refused.** -/
def Refuses (w : World τ) (e : Fault τ) : Prop :=
  ∃ script ∈ w.scripts, script.refusal = some e

/-- **Nothing new is to come** in the second world: no fault from outside that
could not have come in the first one, and whatever is looked up is as it
was. -/
structure Foresees (w w' : World τ) : Prop where
  breaks : ∀ e, w'.Breaks e → w.Breaks e
  faultAt : w'.faultAt = w.faultAt
  scripts : w'.scripts = w.scripts
  files : w'.files = w.files
  environment : w'.environment = w.environment
  executable : w'.executable = w.executable

theorem Foresees.interrupts {w w' : World τ} {e : Fault τ} (h : Foresees w w')
    (he : w'.Interrupts e) : w.Interrupts e := by
  obtain ⟨n, hn⟩ := he
  exact ⟨n, h.faultAt ▸ hn⟩

theorem Foresees.refuses {w w' : World τ} {e : Fault τ} (h : Foresees w w')
    (he : w'.Refuses e) : w.Refuses e := by
  obtain ⟨script, hmem, hr⟩ := he
  exact ⟨script, h.scripts ▸ hmem, hr⟩

instance : IsPreorder (World τ) Foresees where
  refl _ := ⟨fun _ h => h, rfl, rfl, rfl, rfl, rfl⟩
  trans _ _ _ h h' := ⟨fun e he => h.breaks e (h'.breaks e he), h'.faultAt.trans h.faultAt,
    h'.scripts.trans h.scripts, h'.files.trans h.files, h'.environment.trans h.environment,
    h'.executable.trans h.executable⟩

/-- **What is seen within a phase** of an attempt, between two worlds. -/
structure Sees (w w' : World τ) (seen : List (τ × Event τ)) : Prop where
  /-- It is what the journal has gained. -/
  timeline : w'.timeline = w.timeline ++ seen
  /-- The phase is the same. -/
  phase : w'.phase = w.phase
  /-- The keeper is in charge of the same child. -/
  kept : w'.kept = w.kept
  /-- Nothing new is to come. -/
  foresees : Foresees w w'

variable {w w₁ w' : World τ} {seen seen' : List (τ × Event τ)}

theorem Sees.refl (w : World τ) : Sees w w [] where
  timeline := (List.append_nil _).symm
  phase := rfl
  kept := rfl
  foresees := refl_of Foresees w

theorem Sees.trans (h : Sees w w₁ seen) (h' : Sees w₁ w' seen') : Sees w w' (seen ++ seen') where
  timeline := by rw [h'.timeline, h.timeline, List.append_assoc]
  phase := h'.phase.trans h.phase
  kept := h'.kept.trans h.kept
  foresees := trans_of Foresees h.foresees h'.foresees

/-- A notice is seen. -/
theorem Sees.note (w : World τ) (n : Notice τ) :
    Sees w (w.record (.notice n)) [(w.clock, .notice n)] where
  timeline := timeline_record w _
  phase := rfl
  kept := rfl
  foresees := ⟨fun _ h => h, rfl, rfl, rfl, rfl, rfl⟩

/-- **Notices that are given at a time**, one after the other. -/
def telling (now : τ) (notices : List (Notice τ)) : List (τ × Event τ) :=
  notices.map fun n => (now, .notice n)

theorem Sees.told (w : World τ) (notices : List (Notice τ)) :
    Sees w (w.told notices) (telling w.clock notices) := by
  have htimeline : (w.told notices).timeline = w.timeline ++ telling w.clock notices := by
    rw [told_eq, World.timeline, List.reverse_append, List.reverse_reverse]
    rfl
  refine ⟨htimeline, ?_, ?_, ?_⟩
  all_goals rw [told_eq]
  exact ⟨fun _ h => h, rfl, rfl, rfl, rfl, rfl⟩

end World

/-! ## What is seen of health checks -/

namespace HealthCheck

/-- **What an answer means**: that the server is healthy or not, or a fault
that has nothing to do with it. -/
def verdict : Answer τ → Except (Fault τ) Bool
  | .status code => .ok (decide (code = healthyStatus))
  | .failed _ => .ok false
  | .broken e => .error e

/-- A server is healthy by no other answer than the one status. -/
theorem verdict_eq_true_iff {answer : Answer τ} :
    verdict answer = .ok true ↔ answer = .status healthyStatus := by
  cases answer <;> simp [verdict]

/-- A check comes to a fault by no other answer than that fault. -/
theorem verdict_eq_error_iff {answer : Answer τ} {e : Fault τ} :
    verdict answer = .error e ↔ answer = .broken e := by
  cases answer <;> simp [verdict]

/-- What an answer gives notice of: why the server is not healthy. -/
def complaint (baseUrl : String) : Answer τ → Option (Notice τ)
  | .status code =>
    if code = healthyStatus then none else some (.probeAnswered (url baseUrl) code)
  | .failed reason => some (.probeFailed (url baseUrl) reason)
  | .broken _ => none

/-- **What is seen of a health check**: the question with its answer, and then
what is to be complained of. -/
def checked (baseUrl : String) (timeout now later : τ) (answer : Answer τ) :
    List (τ × Event τ) :=
  [(now, .probe (url baseUrl) timeout false answer)]
    ++ telling later (complaint baseUrl answer).toList

variable [Seconds τ]

/-- **The rounds of a wait** that has begun at the given time: in each of them
the time was not up, the server was not healthy, and a pause followed. -/
inductive Rounds (baseUrl : String) (timeout interval start : τ) : List (τ × Event τ) → Prop
  | none : Rounds baseUrl timeout interval start []
  | more {seen : List (τ × Event τ)} {now later : τ} {answer : Answer τ}
      (before : Rounds baseUrl timeout interval start seen) (inTime : now - start < timeout)
      (unhealthy : verdict answer = .ok false) :
      Rounds baseUrl timeout interval start
        (seen ++ checked baseUrl interval now later answer ++ [(later, .sleep interval)])

/-- **What is seen of a wait** for a server in a world, and the time when the
wait is over. -/
inductive Awaited (baseUrl : String) (timeout interval start : τ) (w : World τ) :
    Ending τ Bool → τ → List (τ × Event τ) → Prop
  /-- The server is healthy. -/
  | healthy {seen : List (τ × Event τ)} {now later : τ} {answer : Answer τ}
      (before : Rounds baseUrl timeout interval start seen) (inTime : now - start < timeout)
      (healthy : verdict answer = .ok true) :
      Awaited baseUrl timeout interval start w (.returned true) later
        (seen ++ checked baseUrl interval now later answer
          ++ [(later, .notice (.serverHealthy baseUrl))])
  /-- The time is up. -/
  | late {seen : List (τ × Event τ)} {now : τ}
      (before : Rounds baseUrl timeout interval start seen) (late : ¬ now - start < timeout) :
      Awaited baseUrl timeout interval start w (.returned false) now seen
  /-- An answer is a fault. -/
  | broken {seen : List (τ × Event τ)} {now later : τ} {answer : Answer τ} {e : Fault τ}
      (before : Rounds baseUrl timeout interval start seen) (inTime : now - start < timeout)
      (broken : verdict answer = .error e) (outside : w.Breaks e) :
      Awaited baseUrl timeout interval start w (.raised e) later
        (seen ++ checked baseUrl interval now later answer)
  /-- A pause is interrupted. -/
  | interrupted {seen : List (τ × Event τ)} {now later : τ} {answer : Answer τ} {e : Fault τ}
      (before : Rounds baseUrl timeout interval start seen) (inTime : now - start < timeout)
      (unhealthy : verdict answer = .ok false) (outside : w.Interrupts e) :
      Awaited baseUrl timeout interval start w (.raised e) later
        (seen ++ checked baseUrl interval now later answer ++ [(later, .sleep interval)])

end HealthCheck

/-! ## What is seen of an attempt -/

/-- What is seen of a start, which may be refused. -/
def Keeper.launching (keeper : Keeper τ) (plan : LaunchPlan) (now : τ) (child : Option ChildId) :
    List (τ × Event τ) :=
  [(now, .notice (.starting plan.command plan.root)),
    (now, .spawn plan.command plan.root.toText keeper.platform.creationFlags? child)]

/-- What is seen of giving up on a child. -/
def Keeper.givingUp (k : ChildId) (pid : Int) (now : τ) : List (τ × Event τ) :=
  [(now, .notice (.killingUnhealthy pid)), (now, .call k pid .kill), (now, .call k pid .wait)]

namespace Attempt

/-- What an attempt finds the base address to be. -/
def address (a : Attempt τ) (w : World τ) : Finding τ String :=
  Address.choose a.commandLineUrl w.environment a.keeper.platform w.files

/-- What an attempt finds when it looks for the runtime. -/
def search (a : Attempt τ) (w : World τ) (baseUrl : String) (resources : Option Path) :
    Finding τ LaunchPlan :=
  Discovery.plan baseUrl resources (a.executable.getD w.executable) w.environment
    a.keeper.platform w.files

/-- Going on from one phase to another is seen. -/
def moved (now : τ) (old new : Phase) : List (τ × Event τ) :=
  [(now, .notice (.phaseChanged old new))]

/-- **The phase after a fault**: an attempt has failed, unless its fault is a
wish from outside. -/
def phaseAfter (e : Fault τ) (old : Phase) : Phase :=
  if e.isFailure = true then .failed else old

/-- What is seen of a fault. -/
def failing (e : Fault τ) (now : τ) (old : Phase) : List (τ × Event τ) :=
  if e.isFailure = true then moved now old .failed else []

variable [Seconds τ]

/-- **What is seen until a child is adopted**, and the time then. -/
inductive Adopting (a : Attempt τ) (w : World τ) (baseUrl : String) (start : τ) :
    Ending τ Unit → τ → List (τ × Event τ) → Prop
  /-- The server is healthy, and the keeper takes charge of the child. -/
  | adopted {now : τ} {seen : List (τ × Event τ)} {pid : Int}
      (wait : HealthCheck.Awaited baseUrl a.patience a.pollInterval start w (.returned true)
        now seen)
      (free : w.kept = none) :
      Adopting a w baseUrl start (.returned ()) now (seen ++ [(now, .notice (.inCharge pid))])
  /-- The server is healthy, but the keeper is in charge of another child. -/
  | rival {now : τ} {seen : List (τ × Event τ)} {pid pid' : Int} {k : ChildId}
      (wait : HealthCheck.Awaited baseUrl a.patience a.pollInterval start w (.returned true)
        now seen)
      (kept : w.kept = some k) :
      Adopting a w baseUrl start (.raised (Keeper.alreadyInCharge pid pid')) now seen
  /-- The time is up. -/
  | late {now : τ} {seen : List (τ × Event τ)}
      (wait : HealthCheck.Awaited baseUrl a.patience a.pollInterval start w (.returned false)
        now seen) :
      Adopting a w baseUrl start (.raised (.launch (.silent baseUrl a.patience))) now seen
  /-- A fault comes from outside. -/
  | disturbed {now : τ} {seen : List (τ × Event τ)} {e : Fault τ}
      (wait : HealthCheck.Awaited baseUrl a.patience a.pollInterval start w (.raised e)
        now seen) :
      Adopting a w baseUrl start (.raised e) now seen

/-- **What is seen from the start of a server on**, which is at the given
time. -/
inductive Starting (a : Attempt τ) (w : World τ) (plan : LaunchPlan) (start : τ) :
    Ending τ Ready → Phase → List (τ × Event τ) → Prop
  /-- The start is refused. -/
  | refused {e : Fault τ} (outside : w.Refuses e) :
      Starting a w plan start (.raised (Keeper.startError e))
        (phaseAfter (Keeper.startError e) .spawning)
        (moved start .discovering .spawning ++ a.keeper.launching plan start none
          ++ failing (Keeper.startError e) start .spawning)
  /-- The child is adopted. -/
  | adopted (k : ChildId) (pid : Int) {now : τ} {seen : List (τ × Event τ)}
      (adopting : Adopting a w plan.baseUrl start (.returned ()) now seen) :
      Starting a w plan start (.returned ⟨plan.baseUrl, true⟩) .ready
        (moved start .discovering .spawning ++ a.keeper.launching plan start (some k)
          ++ telling start [.started pid] ++ moved start .spawning .waitingHealthy ++ seen
          ++ moved now .waitingHealthy .ready)
  /-- The child is given up on: it is killed, and its end is waited for. -/
  | givenUp (k : ChildId) (pid pid' : Int) (later : τ) {now : τ} {e : Fault τ}
      {seen : List (τ × Event τ)}
      (adopting : Adopting a w plan.baseUrl start (.raised e) now seen) :
      Starting a w plan start (.raised e) .failed
        (moved start .discovering .spawning ++ a.keeper.launching plan start (some k)
          ++ telling start [.started pid] ++ moved start .spawning .waitingHealthy ++ seen
          ++ Keeper.givingUp k pid' now ++ moved later .waitingHealthy .failed)

/-- **What is seen from the search for the runtime on**, which is at the given
time. -/
inductive Searching (a : Attempt τ) (w : World τ) (baseUrl : String) (resources : Option Path)
    (now : τ) : Ending τ Ready → Phase → List (τ × Event τ) → Prop
  /-- The search fails. -/
  | failed {e : Fault τ} (found : (a.search w baseUrl resources).outcome = .error e) :
      Searching a w baseUrl resources now (.raised e) (phaseAfter e .discovering)
        (moved now .unchecked .discovering ++ telling now (a.search w baseUrl resources).notices
          ++ failing e now .discovering)
  /-- The second health check fails. -/
  | broken (later : τ) {plan : LaunchPlan} {answer : Answer τ} {e : Fault τ}
      (found : (a.search w baseUrl resources).outcome = .ok plan)
      (broken : HealthCheck.verdict answer = .error e) (outside : w.Breaks e) :
      Searching a w baseUrl resources now (.raised e) .discovering
        (moved now .unchecked .discovering ++ telling now (a.search w baseUrl resources).notices
          ++ HealthCheck.checked plan.baseUrl a.pollInterval now later answer)
  /-- A server has come up meanwhile. -/
  | cameUp (later : τ) {plan : LaunchPlan} {answer : Answer τ}
      (found : (a.search w baseUrl resources).outcome = .ok plan)
      (healthy : HealthCheck.verdict answer = .ok true) :
      Searching a w baseUrl resources now (.returned ⟨plan.baseUrl, false⟩) .ready
        (moved now .unchecked .discovering ++ telling now (a.search w baseUrl resources).notices
          ++ HealthCheck.checked plan.baseUrl a.pollInterval now later answer
          ++ telling later [.cameUpMeanwhile plan.baseUrl] ++ moved later .discovering .ready)
  /-- A server is started. -/
  | launched {later : τ} {plan : LaunchPlan} {answer : Answer τ} {ending : Ending τ Ready}
      {phase : Phase} {seen : List (τ × Event τ)}
      (found : (a.search w baseUrl resources).outcome = .ok plan)
      (unhealthy : HealthCheck.verdict answer = .ok false)
      (starting : Starting a w plan later ending phase seen) :
      Searching a w baseUrl resources now ending phase
        (moved now .unchecked .discovering ++ telling now (a.search w baseUrl resources).notices
          ++ HealthCheck.checked plan.baseUrl a.pollInterval now later answer
          ++ seen)

/-- **What is seen of an attempt** that is made in a world: how it ends, the
phase then, and what was seen. -/
inductive Course (a : Attempt τ) (w : World τ) (resources : Option Path) :
    Ending τ Ready → Phase → List (τ × Event τ) → Prop
  /-- There is no base address. -/
  | unaddressed {e : Fault τ} (address : (a.address w).outcome = .error e) :
      Course a w resources (.raised e) .unchecked (telling w.clock (a.address w).notices)
  /-- The base address is of no use. -/
  | unusable {baseUrl : String} (address : (a.address w).outcome = .ok baseUrl)
      (unusable : BaseUrl.isUsable baseUrl = false) :
      Course a w resources (.raised (.launch (.unusable baseUrl))) .failed
        (telling w.clock (a.address w).notices ++ moved w.clock .unchecked .failed)
  /-- The first health check fails. -/
  | broken (later : τ) {baseUrl : String} {e : Fault τ}
      (address : (a.address w).outcome = .ok baseUrl) (usable : BaseUrl.isUsable baseUrl = true)
      (broken : HealthCheck.verdict w.upcoming.answer = .error e) (outside : w.Breaks e) :
      Course a w resources (.raised e) .unchecked
        (telling w.clock (a.address w).notices
          ++ HealthCheck.checked baseUrl a.pollInterval w.clock later w.upcoming.answer)
  /-- A server answers already. -/
  | running (later : τ) {baseUrl : String}
      (address : (a.address w).outcome = .ok baseUrl) (usable : BaseUrl.isUsable baseUrl = true)
      (healthy : HealthCheck.verdict w.upcoming.answer = .ok true) :
      Course a w resources (.returned ⟨baseUrl, false⟩) .ready
        (telling w.clock (a.address w).notices
          ++ HealthCheck.checked baseUrl a.pollInterval w.clock later w.upcoming.answer
          ++ telling later [.alreadyRunning baseUrl] ++ moved later .unchecked .ready)
  /-- The runtime is looked for. -/
  | searched {later : τ} {baseUrl : String} {ending : Ending τ Ready}
      {phase : Phase} {seen : List (τ × Event τ)}
      (address : (a.address w).outcome = .ok baseUrl) (usable : BaseUrl.isUsable baseUrl = true)
      (unhealthy : HealthCheck.verdict w.upcoming.answer = .ok false)
      (searching : Searching a w baseUrl resources later ending phase seen) :
      Course a w resources ending phase
        (telling w.clock (a.address w).notices
          ++ HealthCheck.checked baseUrl a.pollInterval w.clock later w.upcoming.answer
          ++ seen)

end Attempt

/-! ## Single parts -/

namespace Machine

variable [Seconds τ]

/-- A question is seen with the next answer. -/
theorem yields_probe (url : String) (timeout : τ) (w : World τ) :
    (probe url timeout).Yields w
      (fun answer w' => answer = w.upcoming.answer ∧
        Sees w w' [(w.clock, .probe url timeout false answer)])
      (fun _ _ => False) := by
  obtain ⟨rest, last, hlater, hrun⟩ := run_probe url timeout w
  refine (yields_of_returned hrun).mpr ⟨rfl, timeline_record w _, rfl, rfl, ?_⟩
  exact ⟨fun e ⟨q, hq, he⟩ => ⟨q, hlater q hq, he⟩, rfl, rfl, rfl, rfl, rfl⟩

/-- A pause is seen, and its fault is that of an interruption. -/
theorem yields_sleep (pause : τ) (w : World τ) :
    (sleep pause).Yields w (fun _ w' => Sees w w' [(w.clock, .sleep pause)])
      (fun e w' => Sees w w' [(w.clock, .sleep pause)] ∧ w.Interrupts e ∧ w'.clock = w.clock) := by
  have hslept : ∀ (n : Nat) (now : τ), Sees w { w.record (.sleep pause) with
      pauses := n, clock := now } [(w.clock, .sleep pause)] :=
    fun n now => ⟨timeline_record w _, rfl, rfl, fun _ h => h, rfl, rfl, rfl, rfl, rfl⟩
  intro ending w' h
  simp only [run, sleep] at h
  split at h
  · cases h
    exact hslept _ _
  · next i hi =>
    split at h <;> cases h
    · next e he =>
      refine ⟨hslept _ _, ⟨w.pauses + 1, ?_⟩, rfl⟩
      exact (congrArg (Option.bind · (raisedBy w)) hi).trans he
    · exact hslept _ _

/-- A start is seen, and it is refused only by a fault that was to come. -/
theorem yields_spawn_seen (command : List String) (directory : String) (flags : Option Nat)
    (w : World τ) :
    (spawn command directory flags).Yields w
      (fun k w' => Sees w w' [(w.clock, .spawn command directory flags (some k))] ∧
        w'.clock = w.clock ∧ ∃ c, w'.child? k = some c)
      (fun e w' => Sees w w' [(w.clock, .spawn command directory flags none)] ∧
        w'.clock = w.clock ∧ w.Refuses e) := by
  intro ending w' h
  simp only [run, spawn] at h
  split at h <;> cases h
  · next e he =>
    refine ⟨⟨timeline_record w _, rfl, rfl, fun _ h => h, rfl, rfl, rfl, rfl, rfl⟩, rfl, ?_⟩
    cases hscript : w.scripts[w.children.length]? with
    | none =>
      rw [hscript] at he
      cases he
    | some script =>
      rw [hscript] at he
      exact ⟨script, List.mem_of_getElem? hscript, he⟩
  · exact ⟨⟨timeline_record w _, rfl, rfl, fun _ h => h, rfl, rfl, rfl, rfl, rfl⟩, rfl, _,
      (child?_concat rfl _).trans (if_pos rfl)⟩

end Machine

namespace HealthCheck

variable [Seconds τ]

/-- **A health check** is seen, and comes to what the next answer means. -/
theorem yields_check (baseUrl : String) (timeout : τ) (w : World τ) :
    (check baseUrl timeout).Yields w
      (fun healthy w' => verdict w.upcoming.answer = .ok healthy ∧
        Sees w w' (checked baseUrl timeout w.clock w'.clock w.upcoming.answer))
      (fun e w' => verdict w.upcoming.answer = .error e ∧
        Sees w w' (checked baseUrl timeout w.clock w'.clock w.upcoming.answer)) := by
  refine yields_bind.mpr ((Machine.yields_probe _ _ w).mono (fun answer w₁ ⟨ha, h₁⟩ => ?_)
    (fun _ _ h => h.elim))
  rw [← ha]
  cases answer with
  | status code =>
    dsimp only
    split
    · next hcode =>
      refine (yields_pure _).mpr ⟨by rw [verdict, decide_eq_true hcode], ?_⟩
      rw [checked, complaint, if_pos hcode]
      exact h₁
    · next hcode =>
      simp only [yields_bind, yields_note, yields_pure]
      refine ⟨by rw [verdict, decide_eq_false hcode], ?_⟩
      rw [checked, complaint, if_neg hcode]
      exact h₁.trans (.note w₁ _)
  | failed reason =>
    simp only [yields_bind, yields_note, yields_pure]
    exact ⟨rfl, h₁.trans (.note w₁ _)⟩
  | broken e => exact (yields_raise e).mpr ⟨rfl, h₁⟩

omit [Seconds τ] in
/-- An answer that is a fault was to come. -/
theorem breaks_of_verdict {w : World τ} {e : Fault τ}
    (h : verdict w.upcoming.answer = .error e) : w.Breaks e := by
  rcases w.upcoming_mem_or_eq with hmem | hnobody
  · exact ⟨_, hmem, verdict_eq_error_iff.mp h⟩
  · -- if no answer is left, nobody answers, and that is no fault
    rw [hnobody] at h
    cases h

/-- **A wait for a server** is seen round by round. -/
theorem yields_await (baseUrl : String) (timeout interval : τ) {w w₀ : World τ}
    (h₀ : Foresees w₀ w) :
    (await baseUrl timeout interval).Yields w
      (fun healthy w' => ∃ seen, Sees w w' seen ∧
        Awaited baseUrl timeout interval w.clock w₀ (.returned healthy) w'.clock seen)
      (fun e w' => ∃ seen, Sees w w' seen ∧
        Awaited baseUrl timeout interval w.clock w₀ (.raised e) w'.clock seen) := by
  refine yields_bind.mpr ((yields_look _).mpr ?_)
  -- while it goes on, nothing but rounds was seen
  refine Yields.loop (fun w₁ => ∃ seen, Sees w w₁ seen ∧
    Rounds baseUrl timeout interval w.clock seen) ⟨[], .refl w, .none⟩ ?_
  rintro w₁ ⟨seen, hs, hr⟩
  refine yields_bind.mpr ((yields_look _).mpr ?_)
  split
  · next hlt =>
    refine yields_bind.mpr ((yields_check baseUrl interval w₁).mono
      (fun healthy w₂ hchecked => ?_) (fun e w₂ hbroken => ?_))
    · obtain ⟨hv, h₂⟩ := hchecked
      cases healthy with
      | true =>
        simp only [if_true, yields_bind, yields_note, yields_pure]
        exact ⟨_, (hs.trans h₂).trans (.note w₂ _), .healthy hr hlt hv⟩
      | false =>
        simp only [Bool.false_eq_true, if_false, yields_bind]
        refine (Machine.yields_sleep interval w₂).mono (fun _ w₃ h₃ => ?_)
          (fun e w₃ hcut => ?_)
        · exact (yields_pure _).mpr ⟨_, (hs.trans h₂).trans h₃, .more hr hlt hv⟩
        · obtain ⟨h₃, hi, hclock⟩ := hcut
          refine ⟨_, (hs.trans h₂).trans h₃, ?_⟩
          rw [hclock]
          exact .interrupted hr hlt hv
            ((trans_of Foresees h₀ (hs.trans h₂).foresees).interrupts hi)
    · obtain ⟨hv, h₂⟩ := hbroken
      refine ⟨_, hs.trans h₂, .broken hr hlt hv ?_⟩
      exact (trans_of Foresees h₀ hs.foresees).breaks e (breaks_of_verdict hv)
  · next hlt => exact (yields_pure _).mpr ⟨seen, hs, .late hr hlt⟩

end HealthCheck

namespace Keeper

variable [Seconds τ]

/-- **A start** is seen, with what was refused if it was. -/
theorem yields_launch_seen (keeper : Keeper τ) (plan : LaunchPlan) (w : World τ) :
    (keeper.launch plan).Yields w
      (fun k w' => ∃ pid, Sees w w' (keeper.launching plan w.clock (some k)
          ++ telling w.clock [.started pid]) ∧
        w'.clock = w.clock ∧ ∃ c, w'.child? k = some c)
      (fun e w' => ∃ e', w.Refuses e' ∧ e = startError e' ∧
        Sees w w' (keeper.launching plan w.clock none) ∧ w'.clock = w.clock) := by
  have hnote := Sees.note w (.starting plan.command plan.root)
  simp only [launch, yields_bind, yields_note, yields_look, yields_pure, yields_rescue,
    yields_raise]
  refine (Machine.yields_spawn_seen _ _ _ _).mono (fun k w₁ hspawned => ?_)
    (fun e w₁ hrefused => ?_)
  · obtain ⟨h₁, hclock, hc⟩ := hspawned
    have h₂ := (hnote.trans h₁).trans (.note w₁ (.started (w₁.pid k)))
    rw [hclock] at h₂
    exact ⟨_, h₂, hclock, hc⟩
  · obtain ⟨h₁, hclock, hr⟩ := hrefused
    exact ⟨e, hr, rfl, hnote.trans h₁, hclock⟩

/-- **Giving up on a child** is seen, and raises no fault. -/
theorem yields_giveUp_seen {w : World τ} {k : ChildId} {c : Child τ} (h : w.child? k = some c) :
    (giveUp k).Yields w
      (fun _ w' => w'.timeline = w.timeline ++ givingUp k c.pid w.clock ∧ w'.phase = w.phase)
      (fun _ _ => False) := by
  obtain ⟨c', now, -, hrun⟩ := run_giveUp h
  refine (yields_of_returned hrun).mpr ⟨?_, rfl⟩
  show (((w.record _).record (.call k c.pid .kill)).record (.call k c.pid .wait)).timeline = _
  simp only [timeline_record, List.append_assoc]
  rfl

end Keeper

namespace Attempt

/-- Going on to another phase is seen. -/
theorem timeline_entered (phase : Phase) (w : World τ) :
    (entered phase w).timeline = w.timeline ++ moved w.clock w.phase phase :=
  timeline_record w _

theorem foresees_entered (phase : Phase) (w : World τ) : Foresees w (entered phase w) :=
  ⟨fun _ h => h, rfl, rfl, rfl, rfl, rfl⟩

/-- The world in which an attempt has dealt with a fault. -/
def faulted (e : Fault τ) (w : World τ) : World τ :=
  if e.isFailure = true then entered .failed w else w

theorem timeline_faulted (e : Fault τ) (w : World τ) :
    (faulted e w).timeline = w.timeline ++ failing e w.clock w.phase := by
  unfold faulted failing
  split
  · exact timeline_entered .failed w
  · rw [List.append_nil]

theorem phase_faulted (e : Fault τ) (w : World τ) :
    (faulted e w).phase = phaseAfter e w.phase := by
  unfold faulted phaseAfter
  split <;> rfl

/-- A fault that is a failure fails the attempt. -/
theorem of_faulted {e : Fault τ} {w : World τ} (P : World τ → Prop) (h : P (faulted e w)) :
    if e.isFailure = true then P (entered .failed w) else P w := by
  unfold faulted at h
  split
  · next hf => rwa [if_pos hf] at h
  · next hf => rwa [if_neg hf] at h

/-! ## From part to whole -/

/-- **What is seen of an action** in a world: however it ends, the journal has
gained something, and that is what the given grammar says. -/
def Traces {α : Type} (x : Act τ α) (w : World τ)
    (grammar : Ending τ α → World τ → List (τ × Event τ) → Prop) : Prop :=
  x.Yields w
    (fun a w' => ∃ seen, w'.timeline = w.timeline ++ seen ∧ grammar (.returned a) w' seen)
    (fun e w' => ∃ seen, w'.timeline = w.timeline ++ seen ∧ grammar (.raised e) w' seen)

/-- What is seen of an action comes behind what was seen before. -/
theorem Traces.behind {α : Type} {x : Act τ α} {w w₁ : World τ} {seen : List (τ × Event τ)}
    {grammar : Ending τ α → World τ → List (τ × Event τ) → Prop} (hx : Traces x w₁ grammar)
    (grammar' : Ending τ α → World τ → List (τ × Event τ) → Prop)
    (h : w₁.timeline = w.timeline ++ seen)
    (hg : ∀ ending w' later, grammar ending w' later → grammar' ending w' (seen ++ later)) :
    x.Yields w₁
      (fun a w' => ∃ seen, w'.timeline = w.timeline ++ seen ∧ grammar' (.returned a) w' seen)
      (fun e w' => ∃ seen, w'.timeline = w.timeline ++ seen ∧ grammar' (.raised e) w' seen) := by
  have hall : ∀ {w' : World τ} {later}, w'.timeline = w₁.timeline ++ later →
      w'.timeline = w.timeline ++ (seen ++ later) := by
    intro w' later hl
    rw [hl, h, List.append_assoc]
  exact hx.mono (fun _ w' ⟨later, hl, hl'⟩ => ⟨_, hall hl, hg _ w' later hl'⟩)
    (fun _ w' ⟨later, hl, hl'⟩ => ⟨_, hall hl, hg _ w' later hl'⟩)

variable [Seconds τ] {w₀ w : World τ}

/-- **Adopting a child** is seen, and only the last step of it changes who is
in charge. -/
theorem traces_adopt (a : Attempt τ) (baseUrl : String) (k : ChildId) (h₀ : Foresees w₀ w)
    (hk : w.kept = w₀.kept) :
    Traces (a.adopt baseUrl k) w (fun ending w' seen => w'.phase = w.phase ∧
      Adopting a w₀ baseUrl w.clock ending w'.clock seen) := by
  refine yields_bind.mpr ((HealthCheck.yields_await _ _ _ h₀).mono
    (fun healthy w₁ ⟨seen, hs, hw⟩ => ?_) (fun e w₁ ⟨seen, hs, hw⟩ => ?_))
  · cases healthy with
    | true =>
      simp only [if_true, Keeper.takeCharge, yields_bind, yields_look, keptPid]
      cases hkept : w₁.kept with
      | some j =>
        exact (yields_raise _).mpr ⟨seen, hs.timeline, hs.phase,
          .rival hw (hk.symm.trans (hs.kept.symm.trans hkept))⟩
      | none =>
        simp only [Option.map_none, yields_bind, yields_change, yields_note]
        refine ⟨seen ++ [(w₁.clock, .notice (.inCharge (w₁.pid k)))], ?_, hs.phase, ?_⟩
        · rw [timeline_record, ← List.append_assoc, ← hs.timeline]
          rfl
        · exact .adopted hw (hk.symm.trans (hs.kept.symm.trans hkept))
    | false => exact (yields_raise _).mpr ⟨seen, hs.timeline, hs.phase, .late hw⟩
  · exact ⟨seen, hs.timeline, hs.phase, .disturbed hw⟩

/-- **Starting a server** is seen, to whatever end it comes. -/
theorem traces_start (a : Attempt τ) (plan : LaunchPlan) (h₀ : Foresees w₀ w)
    (hk : w.kept = w₀.kept) (hp : w.phase = .discovering) :
    Traces (a.start plan) w (fun ending w' => Starting a w₀ plan w.clock ending w'.phase) := by
  have hspawning := timeline_entered .spawning w
  have h₀' := trans_of Foresees h₀ (foresees_entered .spawning w)
  rw [hp] at hspawning
  simp only [Traces, start, yields_bind, yields_onFault, yields_enter, yields_pure, if_true]
  refine (a.keeper.yields_launch_seen plan _).mono (fun k w₁ hlaunched => ?_)
    (fun e w₁ hrefused => ?_)
  · -- the child is there, and is adopted or given up on
    obtain ⟨pid, h₁, hclock, c, hc⟩ := hlaunched
    have hwaiting := timeline_entered .waitingHealthy w₁
    rw [h₁.phase, hclock, h₁.timeline, hspawning] at hwaiting
    have h₁' := trans_of Foresees (trans_of Foresees h₀' h₁.foresees)
      (foresees_entered .waitingHealthy w₁)
    refine ((a.traces_adopt plan.baseUrl k h₁' (h₁.kept.trans hk)).and
      (a.yields_adopt plan.baseUrl k _)).mono (fun _ w₂ hadopted => ?_)
      (fun e w₂ hunadopted => ?_)
    · obtain ⟨⟨seen, ht, hp₂, hadopting⟩, -⟩ := hadopted
      rw [show (entered .waitingHealthy w₁).clock = w.clock from hclock] at hadopting
      refine ⟨_, ?_, .adopted k pid hadopting⟩
      rw [timeline_entered, hp₂, ht, hwaiting]
      simp only [List.append_assoc]
      rfl
    · obtain ⟨⟨seen, ht, hp₂, hadopting⟩, hleaves⟩ := hunadopted
      rw [show (entered .waitingHealthy w₁).clock = w.clock from hclock] at hadopting
      refine (Keeper.yields_giveUp_seen ((hleaves.child? k).trans hc)).mono
        (fun _ w₃ hgivenUp => ?_) (fun _ _ h => h.elim)
      obtain ⟨ht₃, hp₃⟩ := hgivenUp
      refine ⟨_, ?_, .givenUp k pid c.pid w₃.clock hadopting⟩
      rw [timeline_entered, hp₃, hp₂, ht₃, ht, hwaiting]
      simp only [List.append_assoc]
      rfl
  · -- the start was refused
    obtain ⟨e', hr, rfl, h₁, hclock⟩ := hrefused
    refine of_faulted (fun w' => ∃ seen, w'.timeline = w.timeline ++ seen ∧
      Starting a w₀ plan w.clock (.raised (Keeper.startError e')) w'.phase seen) ?_
    rw [timeline_faulted, phase_faulted, h₁.phase, hclock, h₁.timeline, hspawning]
    refine ⟨_, ?_, .refused (h₀'.refuses hr)⟩
    simp only [List.append_assoc]
    rfl

/-- **Looking for the runtime** and what comes of it is seen. -/
theorem traces_discoverAndStart (a : Attempt τ) (baseUrl : String) (resources : Option Path)
    (h₀ : Foresees w₀ w) (hk : w.kept = w₀.kept) (hp : w.phase = .unchecked) :
    Traces (a.discoverAndStart baseUrl resources) w
      (fun ending w' => Searching a w₀ baseUrl resources w.clock ending w'.phase) := by
  have hdiscovering := timeline_entered .discovering w
  rw [hp] at hdiscovering
  have h₀' := trans_of Foresees h₀ (foresees_entered .discovering w)
  -- nothing that is looked up has changed
  have hsearch : Discovery.plan baseUrl resources
      (a.executable.getD (entered .discovering w).executable)
      (entered .discovering w).environment a.keeper.platform (entered .discovering w).files
      = a.search w₀ baseUrl resources := by
    rw [search, h₀'.executable, h₀'.environment, h₀'.files]
  have htold := Sees.told (entered .discovering w) (a.search w₀ baseUrl resources).notices
  have hclock : ((entered .discovering w).told
      (a.search w₀ baseUrl resources).notices).clock = w.clock := by
    rw [told_eq]
    rfl
  simp only [Traces, discoverAndStart, discover, yields_bind, yields_onFault, yields_enter,
    yields_look, hsearch, yields_consult]
  generalize (entered .discovering w).told (a.search w₀ baseUrl resources).notices = w₁ at *
  have ht₁ := htold.timeline.trans (congrArg (· ++ _) hdiscovering)
  cases hfound : (a.search w₀ baseUrl resources).outcome with
  | error e =>
    refine of_faulted (fun w' => ∃ seen, w'.timeline = w.timeline ++ seen ∧
      Searching a w₀ baseUrl resources w.clock (.raised e) w'.phase seen) ?_
    rw [timeline_faulted, phase_faulted, htold.phase, hclock, ht₁]
    refine ⟨_, ?_, .failed hfound⟩
    simp only [List.append_assoc]
    rfl
  | ok plan =>
    have h₁ := trans_of Foresees h₀' htold.foresees
    refine (HealthCheck.yields_check _ _ w₁).mono (fun healthy w₂ hchecked => ?_)
      (fun e w₂ hbroken => ?_)
    · obtain ⟨hv, h₂⟩ := hchecked
      rw [hclock] at h₂
      have ht₂ := h₂.timeline.trans (congrArg (· ++ _) ht₁)
      have hp₂ : w₂.phase = .discovering := h₂.phase.trans htold.phase
      cases healthy with
      | true =>
        simp only [if_true, yields_bind, yields_note, yields_enter, yields_pure]
        refine ⟨_, ?_, .cameUp w₂.clock hfound hv⟩
        rw [timeline_entered, timeline_record, ht₂,
          show (w₂.record (.notice (.cameUpMeanwhile plan.baseUrl))).phase = _ from hp₂]
        simp only [List.append_assoc]
        rfl
      | false =>
        have hstart := a.traces_start plan (trans_of Foresees h₁ h₂.foresees)
          (h₂.kept.trans (htold.kept.trans hk)) hp₂
        rw [if_neg Bool.false_ne_true]
        refine hstart.behind (fun ending w' => Searching a w₀ baseUrl resources w.clock ending
          w'.phase) ?_ (fun _ _ _ hstarting => .launched hfound hv hstarting)
        rw [ht₂]
        simp only [List.append_assoc]
        rfl
    · obtain ⟨hv, h₂⟩ := hbroken
      rw [hclock] at h₂
      rw [show w₂.phase = .discovering from h₂.phase.trans htold.phase]
      refine ⟨_, ?_, .broken w₂.clock hfound hv
        (h₁.breaks e (HealthCheck.breaks_of_verdict hv))⟩
      rw [h₂.timeline, ht₁]
      simp only [List.append_assoc]
      rfl

/-- **A bootstrap attempt follows the course**, in whatever world it is made
and however it ends. -/
theorem traces_makeReady (a : Attempt τ) (resources : Option Path) (w : World τ) :
    Traces (a.makeReady resources) w
      (fun ending w' => Course a w resources ending w'.phase) := by
  -- the base address is looked for in the same world, but for the phase
  have htold := Sees.told { w with phase := .unchecked } (a.address w).notices
  have hclock : (({ w with phase := .unchecked } : World τ).told (a.address w).notices).clock
      = w.clock := by
    rw [told_eq]
  have hnext : (({ w with phase := .unchecked } : World τ).told (a.address w).notices).upcoming
      = w.upcoming := by
    rw [told_eq]
    rfl
  have h₀ : Foresees w { w with phase := .unchecked } := ⟨fun _ h => h, rfl, rfl, rfl, rfl, rfl⟩
  simp only [Traces, makeReady, baseUrl, yields_bind, yields_change, yields_look]
  refine (yields_consult (a.address w)).mpr ?_
  generalize ({ w with phase := .unchecked } : World τ).told (a.address w).notices = w₁ at *
  have ht₁ : w₁.timeline = w.timeline ++ telling w.clock (a.address w).notices := htold.timeline
  have hp₁ : w₁.phase = .unchecked := htold.phase
  cases haddress : (a.address w).outcome with
  | error e =>
    rw [hp₁]
    exact ⟨_, ht₁, .unaddressed haddress⟩
  | ok baseUrl =>
    dsimp only
    split
    · next husable =>
      refine yields_bind.mpr ((HealthCheck.yields_check _ _ w₁).mono
        (fun healthy w₂ hchecked => ?_) (fun e w₂ hchecked => ?_))
      all_goals
        obtain ⟨hv, h₂⟩ := hchecked
        have hb := fun e he => htold.foresees.breaks e (HealthCheck.breaks_of_verdict he)
        rw [hnext] at hv hb
        rw [hnext, hclock] at h₂
        have ht₂ := h₂.timeline.trans (congrArg (· ++ _) ht₁)
        have hp₂ : w₂.phase = .unchecked := h₂.phase.trans hp₁
      · cases healthy with
        | true =>
          simp only [if_true, yields_bind, yields_note, yields_enter, yields_pure]
          refine ⟨_, ?_, .running w₂.clock haddress husable hv⟩
          rw [timeline_entered, timeline_record, ht₂,
            show (w₂.record (.notice (.alreadyRunning baseUrl))).phase = _ from hp₂]
          simp only [List.append_assoc]
          rfl
        | false =>
          have hdiscover := a.traces_discoverAndStart baseUrl resources
            (trans_of Foresees (trans_of Foresees h₀ htold.foresees) h₂.foresees)
            (h₂.kept.trans htold.kept) hp₂
          rw [if_neg Bool.false_ne_true]
          refine hdiscover.behind (fun ending w' => Course a w resources ending w'.phase) ?_
            (fun _ _ _ hsearching => .searched haddress husable hv hsearching)
          rw [ht₂, List.append_assoc]
      · rw [hp₂]
        refine ⟨_, ?_, .broken w₂.clock haddress husable hv (hb e hv)⟩
        rw [ht₂, List.append_assoc]
    · next husable =>
      simp only [yields_bind, yields_enter, yields_raise]
      refine ⟨_, ?_, .unusable haddress (eq_false_of_ne_true husable)⟩
      rw [timeline_entered, hp₁, hclock, ht₁, List.append_assoc]

/-- **What is seen of an attempt** that has ended follows the course. -/
theorem exists_course_of_run {a : Attempt τ} {resources : Option Path} {w w' : World τ}
    {ending : Ending τ Ready} (hrun : (a.makeReady resources).run w = some (ending, w')) :
    ∃ seen, w'.timeline = w.timeline ++ seen ∧ Course a w resources ending w'.phase seen := by
  have htraces := a.traces_makeReady resources w ending w' hrun
  cases ending with
  | returned ready => exact htraces
  | raised e => exact htraces

/-- Without a base address an attempt is over. -/
theorem Course.of_unaddressed {a : Attempt τ} {w : World τ} {resources : Option Path}
    {ending : Ending τ Ready} {phase : Phase} {seen : List (τ × Event τ)} {e : Fault τ}
    (h : Course a w resources ending phase seen) (haddress : (a.address w).outcome = .error e) :
    ending = .raised e ∧ seen = telling w.clock (a.address w).notices := by
  cases h with
  | unaddressed address =>
    cases address.symm.trans haddress
    exact ⟨rfl, rfl⟩
  | unusable address => cases address.symm.trans haddress
  | broken later address => cases address.symm.trans haddress
  | running later address => cases address.symm.trans haddress
  | searched address => cases address.symm.trans haddress

end Attempt

end LocalServer
