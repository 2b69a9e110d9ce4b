import LocalServer.Address
import LocalServer.Discovery

/-!
# What lookups tell and fail with

An attempt looks two things up before it starts a server: the base address and
the runtime. On its way a lookup tells what it has read, taken and passed over,
and nothing else (`Notice.isOfLookup`). Looking for the runtime fails with a
launch error, as it should, or because a name is too long for the operating
system. Looking for the base address never fails with a launch error: when it
fails at all, then the home directory is not known, or the path of the settings
cannot be handed to the operating system, or the settings hold a port of more
digits than are read (`Address.Failure`).
-/

namespace LocalServer

variable {τ : Type} {α β : Type}

/-- **The notices of lookups.** -/
def Notice.isOfLookup : Notice τ → Bool
  | .portOutOfRange _ | .settingsUnreadable _ | .settingsLoaded _ | .addressTaken _ _
  | .addressIgnored _ _ | .searching _ | .noInterpreter _ | .noPayload _ | .usingRoot _ => true
  | _ => false

namespace Finding

/-- **What a lookup tells and fails with**: it gives notices of lookups, and fails
with certain faults only. -/
structure LooksUp (x : Finding τ α) (P : Fault τ → Prop) : Prop where
  /-- It gives notices of lookups. -/
  notices : ∀ n ∈ x.notices, n.isOfLookup = true
  /-- It fails with one of the faults, if at all. -/
  failure : ∀ e, x.outcome = .error e → P e

variable {P : Fault τ → Prop} {x : Finding τ α}

theorem looksUp_pure (a : α) : (pure a : Finding τ α).LooksUp P :=
  ⟨by rintro n ⟨⟩, by rintro e ⟨⟩⟩

theorem looksUp_fail {e : Fault τ} (h : P e) : (fail e : Finding τ α).LooksUp P where
  notices := by rintro n ⟨⟩
  failure := by
    rintro e' ⟨⟩
    exact h

theorem looksUp_ofExcept {r : Except (Fault τ) α} (h : ∀ e, r = .error e → P e) :
    (ofExcept r).LooksUp P :=
  ⟨by rintro n ⟨⟩, h⟩

/-- What is told by one lookup after the other is told by one of them. -/
theorem forall_notices_bind {N : Notice τ → Prop} {f : α → Finding τ β}
    (hx : ∀ n ∈ x.notices, N n) (hf : ∀ a, ∀ n ∈ (f a).notices, N n) :
    ∀ n ∈ (x >>= f).notices, N n := by
  intro n hn
  cases h : x.outcome with
  | ok a =>
    rw [bind_of_ok h] at hn
    exact (List.mem_append.mp hn).elim (hx n) (hf a n)
  | error e =>
    rw [bind_of_error h] at hn
    exact hx n hn

theorem LooksUp.bind {f : α → Finding τ β} (hx : x.LooksUp P)
    (hf : ∀ a, (f a).LooksUp P) : (x >>= f).LooksUp P := by
  refine ⟨forall_notices_bind hx.notices fun a => (hf a).notices, fun e he => ?_⟩
  cases h : x.outcome with
  | ok a =>
    rw [bind_of_ok h] at he
    exact (hf a).failure e he
  | error e' =>
    rw [bind_of_error h] at he
    cases he
    exact hx.failure e h

/-- Something is told, and then a lookup goes on. -/
theorem LooksUp.after {n : Notice τ} {f : Unit → Finding τ α} (h : n.isOfLookup = true)
    (hf : (f ()).LooksUp P) : (tell n >>= f).LooksUp P := by
  refine LooksUp.bind ⟨fun n' hn => ?_, by rintro e ⟨⟩⟩ (fun _ => hf)
  rwa [List.mem_singleton.mp hn]

/-- One lookup after the other has a result only if both have. -/
theorem of_bind_ok {f : α → Finding τ β} {b : β} (h : (x >>= f).outcome = .ok b) :
    ∃ a, x.outcome = .ok a ∧ (f a).outcome = .ok b := by
  cases hx : x.outcome with
  | ok a =>
    rw [bind_of_ok hx] at h
    exact ⟨a, rfl, h⟩
  | error e =>
    rw [bind_of_error hx] at h
    cases h

theorem LooksUp.map (f : α → β) (hx : x.LooksUp P) : (f <$> x).LooksUp P := by
  rw [← bind_pure_comp]
  exact hx.bind fun a => looksUp_pure (f a)

end Finding

open Finding

/-! ## The base address -/

/-- **What looking for the base address may fail with.** -/
inductive Address.Failure : Fault τ → Prop
  /-- The home directory is not known. -/
  | home : Failure .unknownHome
  /-- The path of the settings cannot be handed to the operating system. -/
  | path : Failure .mutePath
  /-- The port in the settings has more digits than are read. -/
  | port (digits : Nat) (tooMany : Text.digitLimit < digits) : Failure (.tooManyDigits digits)

/-- None of these is a launch error. -/
theorem Address.Failure.ne_launch {e : Fault τ} (h : Address.Failure e) (error : LaunchError τ) :
    e ≠ .launch error := by
  cases h <;> rintro ⟨⟩

/-- A lookup without a result has none after a change of the result either. -/
theorem Environment.error_of_map {r : Except (Fault τ) α} {f : α → β} {e : Fault τ}
    (h : r.map f = .error e) : r = .error e := by
  cases r with
  | ok a => cases h
  | error e' =>
    cases h
    rfl

namespace Environment

variable {env : Environment} {e : Fault τ}

theorem failure_of_home (h : env.home = .error e) : Address.Failure e := by
  unfold home at h
  split at h
  · cases h
    exact .home
  · dsimp only at h
    split at h
    · cases h
      exact .home
    · split at h <;> cases h

theorem failure_of_expandHome {p : Path} (h : env.expandHome p = .error e) :
    Address.Failure e := by
  unfold expandHome at h
  split at h
  · split at h
    · exact failure_of_home (error_of_map h)
    · split at h
      · cases h
        split
        · exact .path
        · exact .home
      · cases h
  · cases h

end Environment

theorem Platform.failure_of_dataDirectory {p : Platform} {env : Environment} {e : Fault τ}
    (h : p.dataDirectory env = .error e) : Address.Failure e := by
  unfold dataDirectory at h
  split at h
  · dsimp only at h
    split at h
    · cases h
    · exact Environment.failure_of_home (Environment.error_of_map h)
  · exact Environment.failure_of_home (Environment.error_of_map h)
  · dsimp only at h
    split at h
    · cases h
    · exact Environment.failure_of_home (Environment.error_of_map h)

namespace ServerSettings

theorem failure_of_path {env : Environment} {platform : Platform} {e : Fault τ}
    (h : path env platform = .error e) : Address.Failure e := by
  unfold path at h
  dsimp only at h
  split at h
  · exact Environment.failure_of_expandHome h
  · exact Platform.failure_of_dataDirectory (Environment.error_of_map h)

/-- A port of too many digits is the only failure of reading the settings. -/
theorem looksUp_ofText (content : String) :
    (ofText content : Finding τ ServerSettings).LooksUp Address.Failure := by
  refine LooksUp.bind ?_ (fun port => looksUp_pure _)
  unfold readPort
  split
  · exact looksUp_pure _
  · next ds _ =>
    split
    · next hlimit => exact looksUp_fail (.port _ hlimit)
    · dsimp only
      split
      · exact looksUp_pure _
      · exact .after rfl (looksUp_pure _)

theorem looksUp_ofFiles (env : Environment) (platform : Platform) (files : FileTree) :
    (ofFiles env platform files : Finding τ _).LooksUp Address.Failure := by
  refine LooksUp.bind (looksUp_ofExcept fun _ => failure_of_path) (fun path => ?_)
  split
  · exact looksUp_fail .path
  · exact .after rfl (looksUp_pure _)
  · split
    · exact .after rfl (looksUp_pure _)
    · next content _ => exact .after rfl ((looksUp_ofText content).map _)

end ServerSettings

namespace Address

theorem looksUp_fromSource {P : Fault τ → Prop} (source : AddressSource)
    (text : Option String) : (fromSource source text : Finding τ _).LooksUp P := by
  unfold fromSource
  split
  · exact looksUp_pure _
  · exact looksUp_pure _
  · split
    · exact .after rfl (looksUp_pure _)
    · exact .after rfl (looksUp_pure _)

/-- **Looking for the base address** never fails with a launch error. -/
theorem looksUp_choose (commandLine : Option String) (env : Environment) (platform : Platform)
    (files : FileTree) :
    (choose commandLine env platform files : Finding τ String).LooksUp Address.Failure := by
  refine (looksUp_fromSource _ _).bind (fun fromLine => ?_)
  cases fromLine with
  | some baseUrl => exact looksUp_pure _
  | none =>
    refine (looksUp_fromSource _ _).bind (fun fromVariable => ?_)
    cases fromVariable with
    | some baseUrl => exact looksUp_pure _
    | none =>
      exact (ServerSettings.looksUp_ofFiles env platform files).bind fun _ => looksUp_pure _

end Address

/-! ## The runtime -/

/-- **What looking for the runtime may fail with.** -/
inductive Discovery.Failure : Fault τ → Prop
  /-- There is nothing to search. -/
  | nowhere (message : String) : Failure (.launch (.nowhereToSearch message))
  /-- The runtime or the server is not there. -/
  | absent (path : String) : Failure (.launch (.absent path))
  /-- A name cannot be looked up. -/
  | name : Failure .nameTooLong

namespace Discovery

theorem failure_of_missing (missing : Missing) :
    Discovery.Failure (.launch missing.error : Fault τ) := by
  obtain ⟨interpreter, payload⟩ := missing
  cases interpreter with
  | some path => exact .absent _
  | none =>
    cases payload with
    | some path => exact .absent _
    | none => exact .nowhere _

theorem looksUp_lookUp (files : FileTree) (path : Path) :
    (lookUp files path : Finding τ Bool).LooksUp Discovery.Failure := by
  unfold lookUp
  split
  · exact looksUp_pure _
  · exact looksUp_fail .name

theorem looksUp_search (platform : Platform) (files : FileTree) (missing : Missing)
    (rs : List Path) :
    (search platform files missing rs : Finding τ _).LooksUp Discovery.Failure := by
  induction rs generalizing missing with
  | nil => exact looksUp_fail (failure_of_missing missing)
  | cons root rest ih =>
    refine (looksUp_lookUp _ _).bind (fun found => ?_)
    split
    · refine (looksUp_lookUp _ _).bind (fun found => ?_)
      split
      · exact .after rfl (looksUp_pure _)
      · exact .after rfl (ih _)
    · exact .after rfl (ih _)

theorem looksUp_appDirectory (executable : String) (platform : Platform) (files : FileTree) :
    (ofExcept (appDirectory executable platform files) : Finding τ _).LooksUp
      Discovery.Failure := by
  refine looksUp_ofExcept (fun e he => ?_)
  unfold appDirectory at he
  dsimp only at he
  split at he
  · cases he
    exact .nowhere _
  · cases he

/-- **Looking for the runtime** fails with a launch error, unless a name is too
long. -/
theorem looksUp_plan (baseUrl : String) (resources : Option Path) (executable : String)
    (env : Environment) (platform : Platform) (files : FileTree) :
    (plan baseUrl resources executable env platform files : Finding τ _).LooksUp
      Discovery.Failure := by
  refine (looksUp_appDirectory executable platform files).bind (fun app => ?_)
  exact .after rfl ((looksUp_search _ _ _ _).bind fun found => looksUp_pure _)

/-- A launch plan is for the base address that it was made for. -/
theorem baseUrl_of_plan {baseUrl : String} {resources : Option Path} {executable : String}
    {env : Environment} {platform : Platform} {files : FileTree} {p : LaunchPlan}
    (h : (plan baseUrl resources executable env platform files : Finding τ _).outcome = .ok p) :
    p.baseUrl = baseUrl := by
  obtain ⟨app, -, h⟩ := of_bind_ok h
  obtain ⟨_, -, h⟩ := of_bind_ok h
  obtain ⟨found, -, h⟩ := of_bind_ok h
  cases h
  rfl

end Discovery

end LocalServer
