import LocalServer.Proofs.SettingsFile

/-!
# Which ports are ignored

A number that is no port does not count: a server with settings that name one has
the port of a server without settings. Whether a number is a port shows when it has
been read, and not every number is. Digits are read up to a limit only, and they count
towards it even if they are zeros in front. So a run of digits that is too long is not
ignored, whatever number it stands for: the text has no settings then, and the search
for an address that has come down to it fails (`ServerSettings.ofText_port_iff`).

On the way from a text to an address there is nothing that would turn such a failure
into something else (`Address.outcome_choose_of_settingsText`).
-/

namespace LocalServer

open Text

variable {τ : Type}

namespace ServerSettings

variable {content : String} {digits : List Char} {o : Option (List Char)}

/-! ## Digits that are not read -/

/-- **A run of too many digits is not read**, and no settings are. -/
theorem outcome_ofText_of_tooMany (hfound : Setting.port.assigned? content.toList = some digits)
    (hlimit : digitLimit < digits.length) :
    (ofText content : Finding τ ServerSettings).outcome
      = .error (.tooManyDigits digits.length) := by
  have hport : (readPort content.toList : Finding τ Nat).outcome
      = .error (.tooManyDigits digits.length) := by
    have h : assigned? "server.port" digitsValue? content.toList = some digits := hfound
    rw [readPort, h]
    dsimp only
    rw [if_pos hlimit]
    rfl
  unfold ofText
  rw [Finding.bind_of_error hport]

/-! ## From a text to an address -/

/-- **The text of the settings** is in the file that they are looked for in. -/
def IsSettingsText (τ : Type) (env : Environment) (platform : Platform) (files : FileTree)
    (content : String) : Prop :=
  ∃ path bytes, ServerSettings.path env platform = (.ok path : Except (Fault τ) Path) ∧
    files.read path = .ok bytes ∧ ofFile? bytes = some content

end ServerSettings

/-- **The search for an address that comes down to a text** comes to what is read of
the text, a failure too. -/
theorem Address.outcome_choose_of_settingsText {commandLine : Option String} {env : Environment}
    {platform : Platform} {files : FileTree} {content : String}
    (hnone : text? commandLine env = none)
    (h : ServerSettings.IsSettingsText τ env platform files content) :
    (choose commandLine env platform files : Finding τ String).outcome
      = (ServerSettings.ofText content : Finding τ ServerSettings).outcome.map
        ServerSettings.baseUrl := by
  obtain ⟨path, bytes, hpath, hfile, hcontent⟩ := h
  rw [outcome_choose_of_none hnone, fromSettings, bind_pure_comp, Finding.outcome_map,
    ServerSettings.outcome_ofFiles_eq hpath hfile hcontent]
  cases (ServerSettings.ofText content : Finding τ ServerSettings).outcome <;> rfl

namespace ServerSettings

/-! ## A port behind zeros -/

/-- The digits of the number 80, behind zeros. -/
def paddedEighty (zeros : Nat) : List Char :=
  List.replicate zeros '0' ++ ['8', '0']

/-- A text that sets the port to them. -/
def paddedText (zeros : Nat) : String :=
  String.ofList (Setting.port.key.toList ++ ' ' :: '=' :: ' ' :: (paddedEighty zeros ++ ['\n']))

theorem toList_paddedText (zeros : Nat) : (paddedText zeros).toList =
    Setting.port.key.toList ++ ' ' :: '=' :: ' ' :: (paddedEighty zeros ++ ['\n']) :=
  String.toList_ofList

theorem length_paddedEighty (zeros : Nat) : (paddedEighty zeros).length = zeros + 2 := by
  rw [paddedEighty, List.length_append, List.length_replicate]
  rfl

theorem isDigit_of_mem_paddedEighty {zeros : Nat} {c : Char} (hc : c ∈ paddedEighty zeros) :
    c.isDigit = true := by
  rw [paddedEighty, List.mem_append] at hc
  rcases hc with hc | hc
  · rw [List.eq_of_mem_replicate hc]
    rfl
  · have table : ['8', '0'].all Char.isDigit = true := rfl
    exact List.all_eq_true.mp table c hc

/-- They stand for that number all the same. -/
theorem portOf_paddedEighty (zeros : Nat) : portOf (some (paddedEighty zeros)) = 80 := by
  have hvalue : Nat.ofDigitChars 10 (paddedEighty zeros) 0 = 80 := by
    rw [paddedEighty, Nat.ofDigitChars_append]
    have hzeros : Nat.ofDigitChars 10 (List.replicate zeros '0') 0 = 0 := by
      induction zeros with
      | zero => rfl
      | succ zeros ih => rw [List.replicate_succ, Nat.ofDigitChars_cons]; exact ih
    rw [hzeros]
    rfl
  rw [portOf, Option.elim_some, hvalue]
  rfl

/-- It is the port that the text sets. -/
theorem isSetTo_paddedText (zeros : Nat) :
    Setting.port.IsSetTo (paddedText zeros).toList (some (paddedEighty zeros)) := by
  have hdigits : IsDigitRun (paddedEighty zeros) (paddedEighty zeros ++ ['\n']) := by
    refine ⟨List.append_ne_nil_of_right_ne_nil _ (List.cons_ne_nil _ _),
      fun c => isDigit_of_mem_paddedEighty, ['\n'], rfl, ?_⟩
    rintro c ⟨⟩
    rfl
  have hassigned : Setting.port.IsAssigned (paddedEighty zeros) (paddedText zeros).toList := by
    have hblank : ∀ c ∈ [' '], isBlank c = true := by
      intro c hc
      rw [List.mem_singleton.mp hc]
      rfl
    exact ⟨[' '], [' '], paddedEighty zeros ++ ['\n'], toList_paddedText zeros, hblank, hblank,
      hdigits⟩
  refine Setting.assigned?_eq_iff.mp (Setting.IsAssigned.assigned? ?_)
  rwa [show (paddedText zeros).toList.dropWhile isBlank = (paddedText zeros).toList from
    hassigned.dropWhile_append (List.forall_mem_nil _)]

/-- The file with such a text is read as it is. -/
theorem isSettingsText_paddedText (zeros : Nat) :
    IsSettingsText Rat ⟨[(pathVariable, "/server.conf")], none⟩ .linux
      ⟨[], [(["server.conf"], .file (paddedText zeros).toUTF8)]⟩ (paddedText zeros) := by
  refine ⟨.ofString "/server.conf", _, by decide +kernel, FileTree.read_at_root _, ?_⟩
  -- no line of it ends in a way that reading would change
  have hreturn : '\r' ∉ (paddedText zeros).toList := by
    rw [toList_paddedText, List.mem_append]
    rintro (hc | hc)
    · exact absurd (Setting.isBlank_of_mem_key hc) (by decide)
    · have hdigits : '\r' ∉ paddedEighty zeros :=
        fun hc => absurd (isDigit_of_mem_paddedEighty hc) (by decide)
      simp [hdigits] at hc
  have hsame := unifyLineEnds_append hreturn []
  rw [List.append_nil] at hsame
  have hnil : unifyLineEnds [] = [] := rfl
  rw [ofFile?_toUTF8, hsame, hnil, List.append_nil, String.ofList_toList]

/-! ## The port that counts -/

/-- **A port that is no port is ignored, unless it is too long.** A text has settings,
with the port that it sets if that is one and the usual port otherwise, exactly if the
digits that count are not too many. If they are, then nothing is read of the text, and
the search for an address fails if it comes down to a file with it. -/
theorem ofText_port_iff (ho : Setting.port.IsSetTo content.toList o) :
    ((∃ s, (ofText content : Finding τ ServerSettings).outcome = .ok s ∧ s.port = portOf o) ↔
      ∀ digits ∈ o, digits.length ≤ digitLimit) ∧
    ∀ digits ∈ o, digitLimit < digits.length →
      (ofText content : Finding τ ServerSettings).outcome
        = .error (.tooManyDigits digits.length) ∧
      ∀ commandLine env platform files, Address.text? commandLine env = none →
        IsSettingsText τ env platform files content →
        (Address.choose commandLine env platform files : Finding τ String).outcome
          = .error (.tooManyDigits digits.length) := by
  have hfound := Setting.assigned?_eq_iff.mpr ho
  have htooMany : ∀ digits ∈ o, digitLimit < digits.length →
      (ofText content : Finding τ ServerSettings).outcome
        = .error (.tooManyDigits digits.length) := by
    intro digits hdigits hlimit
    rw [Option.mem_def.mp hdigits] at hfound
    exact outcome_ofText_of_tooMany hfound hlimit
  refine ⟨⟨?_, ?_⟩, ?_⟩
  · rintro ⟨s, hs, -⟩ digits hdigits
    by_contra hlimit
    rw [htooMany digits hdigits (Nat.not_le.mp hlimit)] at hs
    cases hs
  · intro hlimit
    rw [← hfound] at hlimit ⊢
    exact ⟨_, outcome_ofText hlimit, rfl⟩
  · intro digits hdigits hlimit
    refine ⟨htooMany digits hdigits hlimit, fun commandLine env platform files hnone hfile => ?_⟩
    rw [Address.outcome_choose_of_settingsText hnone hfile, htooMany digits hdigits hlimit]
    rfl

/-- Behind a few zeros the port is read, and behind many it is fatal. -/
theorem ofText_port_iff_of_padded :
    let env : Environment := ⟨[(pathVariable, "/server.conf")], none⟩
    let files : FileTree := ⟨[], [(["server.conf"], .file (paddedText 4299).toUTF8)]⟩
    Setting.port.IsSetTo (paddedText 3).toList (some (paddedEighty 3)) ∧
      (∃ s, (ofText (paddedText 3) : Finding Rat ServerSettings).outcome = .ok s ∧
        s.port = 80) ∧
      Setting.port.IsSetTo (paddedText 4299).toList (some (paddedEighty 4299)) ∧
      Address.text? none env = none ∧
      IsSettingsText Rat env .linux files (paddedText 4299) ∧
      (Address.choose none env .linux files : Finding Rat String).outcome
        = .error (.tooManyDigits 4301) := by
  intro env files
  have hfew := isSetTo_paddedText 3
  have hmany := isSetTo_paddedText 4299
  have hlimit : ∀ digits ∈ some (paddedEighty 3), digits.length ≤ digitLimit := by
    intro digits hdigits
    rw [← Option.some.inj hdigits]
    decide
  have hnone : Address.text? none env = none := by decide +kernel
  have hfile := isSettingsText_paddedText 4299
  obtain ⟨s, hs, hport⟩ := (ofText_port_iff (τ := Rat) hfew).1.mpr hlimit
  have hfatal := ((ofText_port_iff hmany).2 _ rfl (by rw [length_paddedEighty]; decide)).2
    none env .linux files hnone hfile
  rw [length_paddedEighty] at hfatal
  exact ⟨hfew, ⟨s, hs, hport.trans (portOf_paddedEighty 3)⟩, hmany, hnone, hfile, hfatal⟩

/-- **A port is not always read or ignored**: a number that is one is fatal behind 4299
zeros. -/
theorem not_forall_port_of_ofText :
    ¬ ∀ (content : String) (o : Option (List Char)), Setting.port.IsSetTo content.toList o →
      ∃ s, (ofText content : Finding Rat ServerSettings).outcome = .ok s ∧
        s.port = portOf o := by
  intro h
  obtain ⟨s, hs, -⟩ := h _ _ (isSetTo_paddedText 4299)
  have hlimit : digitLimit < (paddedEighty 4299).length := by
    rw [length_paddedEighty]
    decide
  rw [outcome_ofText_of_tooMany (Setting.assigned?_eq_iff.mpr (isSetTo_paddedText 4299)) hlimit]
    at hs
  cases hs

end ServerSettings

end LocalServer
