import LocalServer.Proofs.Lookups
import LocalServer.Proofs.Rereading
import LocalServer.Proofs.Sources

/-!
# Earlier sources come first

The sources of the base address are asked one after the other, and the first text
that names an address settles the matter. What the choice tells and what it comes to
is one equation (`Address.choose_eq`), in which the settings of the server, and with
them all that can fail, stand only in the last case. So whatever is changed in a later
source is not seen at all, not even in what is told
(`Address.choose_without_interference`).
-/

namespace LocalServer

variable {τ : Type}

/-- **A base address is never empty.** -/
theorem BaseUrl.ofUrl?_ne_empty (raw : String) : ofUrl? raw ≠ some "" := by
  intro h
  obtain ⟨u, -, -, -, hcut, -⟩ := of_ofUrl? h
  have htext := hcut.text
  rw [String.toList_empty, eq_comm, List.append_eq_nil_iff] at htext
  cases htext.2

/-! ## What is told -/

namespace Finding

variable {α β : Type} {x : Finding τ α}

/-- **A discreet lookup** gives notices for debugging only, and warns of nothing. -/
def IsDiscreet (x : Finding τ α) : Prop :=
  ∀ n ∈ x.notices, n.level = .debug

theorem isDiscreet_pure (a : α) : (pure a : Finding τ α).IsDiscreet := by
  rintro n ⟨⟩

theorem isDiscreet_fail (e : Fault τ) : (fail e : Finding τ α).IsDiscreet := by
  rintro n ⟨⟩

theorem IsDiscreet.bind {f : α → Finding τ β} (hx : x.IsDiscreet) (hf : ∀ a, (f a).IsDiscreet) :
    (x >>= f).IsDiscreet :=
  forall_notices_bind hx hf

/-- Something is told for debugging, and then a lookup goes on. -/
theorem IsDiscreet.after {n : Notice τ} {f : Unit → Finding τ α} (h : n.level = .debug)
    (hf : (f ()).IsDiscreet) : (tell n >>= f).IsDiscreet := by
  refine IsDiscreet.bind (fun n' hn => ?_) (fun _ => hf)
  rwa [List.mem_singleton.mp hn]

end Finding

namespace ServerSettings

open Finding

theorem isDiscreet_readPort (cs : List Char) : (readPort cs : Finding τ Nat).IsDiscreet := by
  unfold readPort
  split
  · exact isDiscreet_pure _
  · split
    · exact isDiscreet_fail _
    · dsimp only
      split
      · exact isDiscreet_pure _
      · exact .after rfl (isDiscreet_pure _)

/-- **Looking for the settings** warns of nothing. -/
theorem isDiscreet_ofFiles (env : Environment) (platform : Platform) (files : FileTree) :
    (ofFiles env platform files : Finding τ _).IsDiscreet := by
  have hpath : (ofExcept (path env platform) : Finding τ Path).IsDiscreet := by rintro n ⟨⟩
  refine hpath.bind (fun path => ?_)
  split
  · exact isDiscreet_fail _
  · exact .after rfl (isDiscreet_pure _)
  · split
    · exact .after rfl (isDiscreet_pure _)
    · refine .after rfl ?_
      rw [← bind_pure_comp]
      exact ((isDiscreet_readPort _).bind fun _ => isDiscreet_pure _).bind fun _ =>
        isDiscreet_pure _

end ServerSettings

namespace Address

/-- **What is told of a source that is passed over**: its text, if it has one that is
not empty. -/
def refused (source : AddressSource) : Option String → List (Notice τ)
  | none => []
  | some text =>
    if text = "" ∨ BaseUrl.ofUrl? text ≠ none then [] else [.addressIgnored source text]

/-- A source that names an address is not passed over. -/
theorem refused_of_bind {source : AddressSource} {text : Option String} {value : String}
    (h : text.bind BaseUrl.ofUrl? = some value) : (refused source text : List (Notice τ)) = [] := by
  obtain ⟨text, rfl, htext⟩ := Option.bind_eq_some_iff.mp h
  exact if_pos (Or.inr (by simp [htext]))

/-- **What a source tells.** -/
theorem notices_fromSource (source : AddressSource) (text : Option String) :
    (fromSource source text : Finding τ _).notices = refused source text
      ++ (text.bind BaseUrl.ofUrl?).toList.map (.addressTaken source ·) := by
  unfold fromSource
  split
  · rfl
  · rw [refused, if_pos (Or.inl rfl), Option.bind_some, ofUrl?_empty]
    rfl
  · next text hne =>
    rw [Option.bind_some, refused]
    cases h : BaseUrl.ofUrl? text with
    | some value =>
      rw [if_pos (Or.inr (Option.some_ne_none value))]
      rfl
    | none =>
      rw [if_neg (not_or.mpr ⟨hne, not_not.mpr rfl⟩)]
      rfl

variable (commandLine : Option String) (env : Environment) (platform : Platform)
  (files : FileTree)

/-- **What the choice tells and comes to**, for each way in which the sources can
be. -/
theorem choose_eq : (choose commandLine env platform files : Finding τ String) =
    match commandLine.bind BaseUrl.ofUrl?, (env.get? baseUrlVariable).bind BaseUrl.ofUrl? with
    | some value, _ => ⟨[.addressTaken .commandLine value], .ok value⟩
    | none, some value => ⟨refused .commandLine commandLine
        ++ [.addressTaken (.variable baseUrlVariable) value], .ok value⟩
    | none, none => ⟨refused .commandLine commandLine
        ++ refused (.variable baseUrlVariable) (env.get? baseUrlVariable)
        ++ (fromSettings env platform files).notices,
        (fromSettings env platform files).outcome⟩ := by
  unfold choose
  rw [Finding.bind_of_ok (outcome_fromSource _ _), notices_fromSource]
  cases hline : commandLine.bind BaseUrl.ofUrl? with
  | some value =>
    rw [refused_of_bind hline]
    rfl
  | none =>
    dsimp only
    rw [Finding.bind_of_ok (outcome_fromSource _ _), notices_fromSource]
    cases hvariable : (env.get? baseUrlVariable).bind BaseUrl.ofUrl? with
    | some value =>
      simp [refused_of_bind hvariable]
    | none =>
      simp only [Option.toList_none, List.map_nil, List.append_nil, List.append_assoc]

/-- **What the settings come to**, and those that there are by default if there is no
file. -/
theorem outcome_fromSettings : (fromSettings env platform files : Finding τ String).outcome =
    (ServerSettings.ofFiles env platform files).outcome.map fun settings =>
      BaseUrl.ofParts (settings.getD .default).ip (settings.getD .default).port
        (settings.getD .default).subpath := by
  unfold fromSettings
  cases h : (ServerSettings.ofFiles env platform files : Finding τ _).outcome with
  | ok settings =>
    rw [Finding.bind_of_ok h]
    rfl
  | error e =>
    rw [Finding.bind_of_error h]
    rfl

theorem isDiscreet_fromSettings : (fromSettings env platform files : Finding τ _).IsDiscreet :=
  (ServerSettings.isDiscreet_ofFiles env platform files).bind fun _ => Finding.isDiscreet_pure _

/-- What is told of a source that is passed over is a warning. -/
theorem filter_refused (source : AddressSource) (text : Option String) :
    (refused source text : List (Notice τ)).filter (·.level = .warning) = refused source text := by
  refine List.filter_eq_self.mpr fun n hn => ?_
  unfold refused at hn
  split at hn
  · cases hn
  · split at hn
    · cases hn
    · rw [List.mem_singleton.mp hn]
      rfl

/-- **What the choice warns of** are the sources that were passed over, in the order in
which they are asked. -/
theorem warnings_choose :
    (choose commandLine env platform files : Finding τ String).notices.filter
        (·.level = .warning) = refused .commandLine commandLine ++
      if commandLine.bind BaseUrl.ofUrl? = none then
        refused (.variable baseUrlVariable) (env.get? baseUrlVariable)
      else [] := by
  have hnone : (fromSettings env platform files : Finding τ String).notices.filter
      (·.level = .warning) = [] := by
    refine List.filter_eq_nil_iff.mpr fun n hn => ?_
    rw [isDiscreet_fromSettings env platform files n hn]
    decide
  rw [choose_eq]
  cases hline : commandLine.bind BaseUrl.ofUrl? with
  | some value =>
    rw [refused_of_bind hline]
    rfl
  | none =>
    cases hvariable : (env.get? baseUrlVariable).bind BaseUrl.ofUrl? with
    | some value =>
      have htaken : ([.addressTaken (.variable baseUrlVariable) value] : List (Notice τ)).filter
          (·.level = .warning) = [] := rfl
      simp only [refused_of_bind hvariable, List.filter_append, filter_refused, htaken, if_true]
    | none => simp only [List.filter_append, filter_refused, hnone, List.append_nil, if_true]

/-- **Earlier sources come first, and later ones do not interfere.** If the command
line names an address, then the choice comes to it and tells of nothing else, whatever
the variables and the files are, even where looking for the settings would fail. If it
names none and the variable does, then the same holds of the variable, whatever the
other variables and the files are. If neither names one, then the choice comes to what
the settings come to, a failure or the address that is made of them. Each source that
was asked in vain, but not in silence, is warned of once, in their order; and no
address that a source names is empty, so that none is taken for a source that is
silent. -/
theorem choose_without_interference :
    (∀ value, commandLine.bind BaseUrl.ofUrl? = some value → ∀ env' platform' files',
      (choose commandLine env' platform' files' : Finding τ String)
        = ⟨[.addressTaken .commandLine value], .ok value⟩) ∧
    (∀ value, commandLine.bind BaseUrl.ofUrl? = none →
      (env.get? baseUrlVariable).bind BaseUrl.ofUrl? = some value → ∀ env' platform' files',
      env'.get? baseUrlVariable = env.get? baseUrlVariable →
      (choose commandLine env' platform' files' : Finding τ String)
        = ⟨refused .commandLine commandLine ++ [.addressTaken (.variable baseUrlVariable) value],
          .ok value⟩) ∧
    (commandLine.bind BaseUrl.ofUrl? = none →
      (env.get? baseUrlVariable).bind BaseUrl.ofUrl? = none →
      (choose commandLine env platform files : Finding τ String).outcome =
        (ServerSettings.ofFiles env platform files).outcome.map fun settings =>
          BaseUrl.ofParts (settings.getD .default).ip (settings.getD .default).port
            (settings.getD .default).subpath) ∧
    (choose commandLine env platform files : Finding τ String).notices.filter
        (·.level = .warning) = refused .commandLine commandLine ++
      (if commandLine.bind BaseUrl.ofUrl? = none then
        refused (.variable baseUrlVariable) (env.get? baseUrlVariable)
      else []) ∧
    ∀ raw, BaseUrl.ofUrl? raw ≠ some "" := by
  refine ⟨fun value hline env' platform' files' => ?_,
    fun value hline hvariable env' platform' files' hsame => ?_, fun hline hvariable => ?_,
    warnings_choose commandLine env platform files, BaseUrl.ofUrl?_ne_empty⟩
  · rw [choose_eq, hline]
  · rw [choose_eq, hline, hsame, hvariable]
  · rw [choose_eq, hline, hvariable]
    dsimp only
    exact outcome_fromSettings env platform files

/-- A variable that is passed over and a path that starts at the home of a user whom
nobody knows do nothing to the command line. If it names no address, they do. -/
theorem choose_without_interference_of_unknown_user :
    let env : Environment := ⟨[("SUWAYOMI_BASE_URL", "http://0.0.0.0:4567/"),
      ("SUWAYOMI_CONFIG_PATH", "~nosuchuser/server.conf")], none⟩
    let env' : Environment := ⟨[("SUWAYOMI_BASE_URL", "nowhere"),
      ("SUWAYOMI_CONFIG_PATH", "~nosuchuser/server.conf")], none⟩
    let files : FileTree := ⟨[], []⟩
    (choose (some "http://example.org/") env' .linux files : Finding Rat String)
        = ⟨[.addressTaken .commandLine "http://example.org"], .ok "http://example.org"⟩ ∧
      (choose (some "nowhere") env .linux files : Finding Rat String)
        = ⟨[.addressIgnored .commandLine "nowhere",
          .addressTaken (.variable "SUWAYOMI_BASE_URL") "http://127.0.0.1:4567"],
          .ok "http://127.0.0.1:4567"⟩ ∧
      (choose (some "nowhere") env' .linux files : Finding Rat String).outcome
        = .error .unknownHome := by
  intro env env' files
  have hline : (some "http://example.org/").bind BaseUrl.ofUrl? = some "http://example.org" := by
    decide +kernel
  have hnone : (some "nowhere").bind BaseUrl.ofUrl? = none := by decide +kernel
  have hvariable : (env.get? baseUrlVariable).bind BaseUrl.ofUrl?
      = some "http://127.0.0.1:4567" := by decide +kernel
  have hvariable' : (env'.get? baseUrlVariable).bind BaseUrl.ofUrl? = none := by decide +kernel
  have hrefused : (refused .commandLine (some "nowhere") : List (Notice Rat))
      = [.addressIgnored .commandLine "nowhere"] := by decide +kernel
  refine ⟨?_, ?_, ?_⟩
  · rw [(choose_without_interference _ env .linux files).1 _ hline env' .linux files]
  · rw [(choose_without_interference _ env .linux files).2.1 _ hnone hvariable env .linux files rfl,
      hrefused]
    rfl
  · rw [(choose_without_interference _ env' .linux files).2.2.1 hnone hvariable']
    have hpath : (ServerSettings.path env' .linux : Except (Fault Rat) Path)
        = .error .unknownHome := by decide +kernel
    have hfail : (ServerSettings.ofFiles env' .linux files : Finding Rat _).outcome
        = .error .unknownHome := by
      rw [ServerSettings.ofFiles, hpath]
      rfl
    rw [hfail]
    rfl

end Address

end LocalServer
