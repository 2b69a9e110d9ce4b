import LocalServer.Proofs.Course
import LocalServer.Proofs.Lookups

/-!
# What attempts fail with

Whoever asks for a server is prepared for launch errors, and for nothing else.
In a world where nothing is wrong but that servers do not answer and starts are
refused (`World.IsOrdinary`), an attempt comes to an end, and it raises a launch
error, or no fault at all, with two exceptions. Faults of the lookup of the
base address go through as they are, and none of them is a launch error. And
one fault of the search for the runtime goes through too: a name that is too
long to be looked up.

So an attempt may fail with something else, and exactly when it does is known
(`Attempt.makeReady_fails_otherwise_iff`).
-/

namespace LocalServer

open Act World

/-- **An ordinary world**: the keeper is in charge of no child, nobody
interrupts, no answer is a fault, and starts are refused by the operating system
only. -/
structure World.IsOrdinary {τ : Type} (w : World τ) : Prop where
  free : w.kept = none
  answers : ∀ e, ¬ w.Breaks e
  interruptions : ∀ e, ¬ w.Interrupts e
  refusals : ∀ e, w.Refuses e → ∃ kind message, kind.isSystem = true ∧ e = .failure kind message

/-- A fault that is no launch error. -/
def Fault.IsOther {τ : Type} (e : Fault τ) : Prop :=
  ∀ error, e ≠ .launch error

theorem Fault.not_isOther_launch {τ : Type} (error : LaunchError τ) :
    ¬ (Fault.launch error).IsOther :=
  fun h => h error rfl

namespace Attempt

variable {τ : Type} [Seconds τ] {a : Attempt τ} {w : World τ} {baseUrl : String} {start now : τ}
  {resources : Option Path} {plan : LaunchPlan} {seen : List (τ × Event τ)} {phase : Phase}
  {e : Fault τ}

/-- In an ordinary world a wait is not disturbed. -/
theorem Adopting.not_isOther (hw : w.IsOrdinary)
    (h : Adopting a w baseUrl start (.raised e) now seen) : ¬ e.IsOther := by
  cases h with
  | rival wait kept =>
    rw [hw.free] at kept
    cases kept
  | late wait => exact Fault.not_isOther_launch _
  | disturbed wait =>
    cases wait with
    | broken _ _ _ outside => exact absurd outside (hw.answers _)
    | interrupted _ _ _ outside => exact absurd outside (hw.interruptions _)

/-- In an ordinary world a start is refused with a launch error. -/
theorem Starting.not_isOther (hw : w.IsOrdinary)
    (h : Starting a w plan start (.raised e) phase seen) : ¬ e.IsOther := by
  -- what refuses a start is told as a launch error if it comes from the operating system
  generalize hending : (Ending.raised e : Ending τ Ready) = ending at h
  cases h with
  | refused outside =>
    obtain ⟨kind, message, hkind, rfl⟩ := hw.refusals _ outside
    rw [Keeper.startError, if_pos hkind] at hending
    cases hending
    exact Fault.not_isOther_launch _
  | adopted k pid adopting => cases hending
  | givenUp k pid pid' later adopting =>
    cases hending
    exact adopting.not_isOther hw

/-- **From the search on**, an attempt fails with another fault only if a name
is too long. -/
theorem Searching.raised_other_iff {ending : Ending τ Ready} (hw : w.IsOrdinary)
    (h : Searching a w baseUrl resources now ending phase seen) :
    ending = .raised e ∧ e.IsOther ↔
      (a.search w baseUrl resources).outcome = .error .nameTooLong ∧ e = .nameTooLong := by
  cases h with
  | failed found =>
    rw [found, Except.error.injEq, Ending.raised.injEq]
    cases (Discovery.looksUp_plan _ _ _ _ _ _).failure _ found with
    | nowhere message =>
      refine iff_of_false ?_ (by rintro ⟨⟨⟩, _⟩)
      rintro ⟨rfl, he⟩
      exact Fault.not_isOther_launch _ he
    | absent path =>
      refine iff_of_false ?_ (by rintro ⟨⟨⟩, _⟩)
      rintro ⟨rfl, he⟩
      exact Fault.not_isOther_launch _ he
    | name =>
      refine ⟨fun h => ⟨rfl, h.1.symm⟩, fun h => ⟨h.2.symm, ?_⟩⟩
      rw [h.2]
      rintro _ ⟨⟩
  | broken later found broken outside => exact absurd outside (hw.answers _)
  | cameUp later found =>
    rw [found]
    exact iff_of_false (by rintro ⟨⟨⟩, _⟩) (by rintro ⟨⟨⟩, _⟩)
  | launched found unhealthy starting =>
    rw [found]
    refine iff_of_false ?_ (by rintro ⟨⟨⟩, _⟩)
    rintro ⟨rfl, he⟩
    exact starting.not_isOther hw he

/-- **What obstructs an attempt**: a fault of the lookup of the base address,
or a name that is too long where the runtime has to be looked for. -/
def Obstructed (a : Attempt τ) (w : World τ) (resources : Option Path) (e : Fault τ) : Prop :=
  (a.address w).outcome = .error e ∨
  ∃ baseUrl, (a.address w).outcome = .ok baseUrl ∧ BaseUrl.isUsable baseUrl = true ∧
    HealthCheck.verdict w.upcoming.answer = .ok false ∧
    (a.search w baseUrl resources).outcome = .error .nameTooLong ∧ e = .nameTooLong

omit [Seconds τ] in
/-- With a base address only the search is left to obstruct an attempt. -/
theorem obstructed_iff_of_address (haddress : (a.address w).outcome = .ok baseUrl) :
    a.Obstructed w resources e ↔ BaseUrl.isUsable baseUrl = true ∧
      HealthCheck.verdict w.upcoming.answer = .ok false ∧
      (a.search w baseUrl resources).outcome = .error .nameTooLong ∧ e = .nameTooLong := by
  constructor
  · rintro (he | ⟨b, hb, h⟩)
    · cases he.symm.trans haddress
    · cases hb.symm.trans haddress
      exact h
  · exact fun h => Or.inr ⟨baseUrl, haddress, h⟩

/-- **In an ordinary world** an attempt fails with another fault than a launch
error if and only if that obstructs it. -/
theorem Course.raised_other_iff {ending : Ending τ Ready} (hw : w.IsOrdinary)
    (h : Course a w resources ending phase seen) :
    ending = .raised e ∧ e.IsOther ↔ a.Obstructed w resources e := by
  cases h with
  | unaddressed address =>
    constructor
    · rintro ⟨⟨⟩, -⟩
      exact Or.inl address
    · rintro (he | ⟨b, hb, -⟩)
      · cases he.symm.trans address
        exact ⟨rfl, ((Address.looksUp_choose _ _ _ _).failure _ address).ne_launch⟩
      · cases hb.symm.trans address
  | unusable address unusable =>
    rw [obstructed_iff_of_address address, unusable]
    refine iff_of_false ?_ (by rintro ⟨⟨⟩, _⟩)
    rintro ⟨⟨⟩, he⟩
    exact Fault.not_isOther_launch _ he
  | broken later address usable broken outside => exact absurd outside (hw.answers _)
  | running later address usable healthy =>
    rw [obstructed_iff_of_address address, healthy]
    exact iff_of_false (by rintro ⟨⟨⟩, _⟩) (by rintro ⟨_, ⟨⟩, _⟩)
  | searched address usable unhealthy searching =>
    rw [obstructed_iff_of_address address, and_iff_right usable, and_iff_right unhealthy]
    exact searching.raised_other_iff hw

omit [Seconds τ] in
/-- What obstructs an attempt is one of few faults, and never a launch error. -/
theorem Obstructed.fault (h : a.Obstructed w resources e) :
    e = .nameTooLong ∨ Address.Failure e := by
  rcases h with he | ⟨_, _, _, _, _, rfl⟩
  · exact Or.inr ((Address.looksUp_choose _ _ _ _).failure _ he)
  · exact Or.inl rfl

/-- **When an attempt fails with something else than a launch error.** In an
ordinary world an attempt comes to an end, if the pauses of its wait are longer
than nothing. It returns, or raises a launch error, unless it is obstructed: if
the lookup of the base address fails, or a name is too long where the runtime
has to be looked for, then that fault goes through as it is.

That these are all the ways is a fact about systems such as a `FileTree`
describes, without permissions and with a working directory that stays where it
is, and without a database of users: where a directory may not be searched, or the
working directory was deleted, a lookup can fail in further ways. -/
theorem makeReady_fails_otherwise_iff (a : Attempt Rat) (resources : Option Path)
    {w : World Rat} (hp : 0 < a.pollInterval) (hforward : w.IsForward) (hw : w.IsOrdinary) :
    ∃ ending w', (a.makeReady resources).run w = some (ending, w') ∧
      ∀ e, (ending = .raised e ∧ e.IsOther ↔ a.Obstructed w resources e) ∧
        (a.Obstructed w resources e → e = .nameTooLong ∨ Address.Failure e) := by
  obtain ⟨ending, w', hrun⟩ := (ends_makeReady hp hforward resources).exists_run
  obtain ⟨seen, -, hcourse⟩ := exists_course_of_run hrun
  exact ⟨ending, w', hrun, fun e => ⟨hcourse.raised_other_iff hw, Obstructed.fault⟩⟩

/-- A world in which the file with the settings is in the home of a user whom
nobody knows. -/
def estranged : World Rat :=
  World.still 0 (FileTree.empty [])
    ⟨[("SUWAYOMI_CONFIG_PATH", "~nosuchuser/server.conf")], none⟩

theorem isOrdinary_estranged : estranged.IsOrdinary where
  free := rfl
  answers := by
    rintro e ⟨p, hp, -⟩
    cases hp
  interruptions := by
    rintro e ⟨n, hn⟩
    cases hn
  refusals := by
    rintro e ⟨script, hscript, -⟩
    cases hscript

theorem address_estranged :
    ((usual .linux none : Attempt Rat).address estranged).outcome = .error .unknownHome := by
  decide +kernel

/-- An attempt in that world fails because the home is not known. -/
theorem makeReady_fails_otherwise_of_estranged :
    0 < (usual .linux none : Attempt Rat).pollInterval ∧ estranged.IsForward ∧
      estranged.IsOrdinary ∧
      ∃ w', ((usual .linux none : Attempt Rat).makeReady none).run estranged
        = some (.raised .unknownHome, w') := by
  have hp : 0 < (usual .linux none : Attempt Rat).pollInterval := by decide +kernel
  have hforward : estranged.IsForward := by rintro p ⟨⟩
  obtain ⟨ending, w', hrun, h⟩ :=
    makeReady_fails_otherwise_iff (usual .linux none) none hp hforward isOrdinary_estranged
  obtain ⟨rfl, -⟩ := (h .unknownHome).1.mpr (Or.inl address_estranged)
  exact ⟨hp, hforward, isOrdinary_estranged, w', hrun⟩

/-- **Not every fault of an attempt is a launch error**, even in an ordinary
world. -/
theorem not_forall_launch_error_of_raised :
    ¬ ∀ (a : Attempt Rat) (resources : Option Path) (w w' : World Rat) (e : Fault Rat),
      0 < a.pollInterval → w.IsForward → w.IsOrdinary →
      (a.makeReady resources).run w = some (.raised e, w') → ∃ error, e = .launch error := by
  intro h
  have hp : 0 < (usual .linux none : Attempt Rat).pollInterval := by decide +kernel
  have hforward : estranged.IsForward := by rintro p ⟨⟩
  obtain ⟨ending, w', hrun⟩ := (ends_makeReady hp hforward none).exists_run
  obtain ⟨seen, -, hcourse⟩ := exists_course_of_run hrun
  obtain ⟨rfl, -⟩ := hcourse.of_unaddressed address_estranged
  obtain ⟨error, herror⟩ := h _ none _ w' _ hp hforward isOrdinary_estranged hrun
  cases herror

end Attempt

end LocalServer
