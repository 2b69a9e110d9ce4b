import LocalServer.Proofs.NormalForm
import LocalServer.Proofs.Sources

/-!
# Files with settings

A file with the settings of the server is made of lines. Some of them assign a
setting, with spaces and tabs between the parts; the others are any text that
does not start with a key, and may well hold keys and quotes further on. The
lines come in any order, and all end in the same way.

If each setting is assigned somewhere in such a file, and no text of the user
names a base address, then the base address is made of exactly these settings,
and it can be used (`Address.choose_of_file`). Two things carry this. The ends
of lines are unified before the settings are looked for, and no line holds an
end of its own (`unifyLineEnds_fileChars`). And a line hides nothing that
stands behind it: the search for a setting passes over a line without its key,
even over an empty one, where it would find an assignment further down
(`Setting.assigned?_of_other`).
-/

namespace LocalServer

open Text

/-! ## The lines of a file -/

/-- **Plain settings**, of which a base address is made as they stand: an address
of letters, digits, dots and hyphens, a port, and a subpath that is empty or
starts with one slash and does not end with one. -/
structure PlainSettings where
  /-- The address that the server listens on. -/
  ip : String
  /-- The port. -/
  port : Nat
  /-- The subpath. -/
  subpath : String
  ip_ne_empty : ip ≠ ""
  ip_plain : ∀ c ∈ ip.toList, c.isAlphanum = true ∨ c = '.' ∨ c = '-'
  port_le : port ≤ 65535
  subpath_shape : subpath = "" ∨ ∃ core : List Char, subpath.toList = '/' :: core ∧
    core.head? ≠ some '/' ∧ subpath.toList.getLast? ≠ some '/'
  subpath_plain : ∀ c ∈ subpath.toList, c ≠ '\x22' ∧ isBlank c = false

/-- **The base address** of a server with plain settings. -/
def PlainSettings.baseUrl (s : PlainSettings) : String :=
  "http://" ++ (if s.ip = "0.0.0.0" then "127.0.0.1" else s.ip) ++ ":" ++ toString s.port
    ++ s.subpath

/-- The value of a setting. -/
def PlainSettings.value (s : PlainSettings) : Setting → List Char
  | .ip => s.ip.toList
  | .port => (toString s.port).toList
  | .subpath => s.subpath.toList

/-- A value as it is written in a file. -/
def PlainSettings.written (s : PlainSettings) (k : Setting) : List Char :=
  match k with
  | .port => s.value k
  | .ip | .subpath => '\x22' :: (s.value k ++ ['\x22'])

/-- **A gap** between the parts of an assignment. -/
structure Gap where
  chars : List Char
  spaces : ∀ c ∈ chars, c = ' ' ∨ c = '\t'

/-- **A line of a file** with settings. -/
inductive FileLine where
  /-- A setting is assigned. -/
  | assignment (k : Setting) (indent gap gap' behind : Gap)
  /-- Any other text on one line that does not start with a key. -/
  | other (text : List Char) (single : '\n' ∉ text ∧ '\r' ∉ text)
    (free : ∀ k : Setting, ¬ k.key.toList <+: text.dropWhile isBlank)

namespace FileLine

/-- The setting that a line assigns. -/
def setting? : FileLine → Option Setting
  | assignment k _ _ _ _ => some k
  | other _ _ _ => none

/-- The text of a line. -/
def chars (s : PlainSettings) : FileLine → List Char
  | assignment k indent gap gap' behind => indent.chars ++
    (k.key.toList ++ (gap.chars ++ '=' :: (gap'.chars ++ (s.written k ++ behind.chars))))
  | other text _ _ => text

end FileLine

/-- **How lines end.** -/
inductive LineEnd where
  | lineFeed
  | carriageReturn
  | both
deriving DecidableEq, Repr

/-- The characters at the end of a line. -/
def LineEnd.chars : LineEnd → List Char
  | lineFeed => ['\n']
  | carriageReturn => ['\r']
  | both => ['\r', '\n']

/-- **The text of a file.** -/
def fileChars (s : PlainSettings) (ending : LineEnd) (lines : List FileLine) : List Char :=
  lines.flatMap fun line => line.chars s ++ ending.chars

/-! ## One line -/

section Values

variable {s : PlainSettings} {k : Setting} {c : Char}

theorem Gap.isBlank_of_mem {gap : Gap} (h : c ∈ gap.chars) : isBlank c = true := by
  rcases gap.spaces c h with rfl | rfl <;> rfl

/-- The characters of an address are those of a scheme. -/
theorem PlainSettings.isSchemeChar_of_mem_ip (h : c ∈ s.ip.toList) :
    Url.isSchemeChar c = true := by
  rcases s.ip_plain c h with h | rfl | rfl
  · simp [Url.isSchemeChar, h]
  · rfl
  · rfl

/-- No value holds a blank. -/
theorem PlainSettings.isBlank_of_mem_value (h : c ∈ s.value k) : isBlank c = false := by
  cases k with
  | ip => exact (Url.isVisible_of_isSchemeChar (s.isSchemeChar_of_mem_ip h)).isBlank
  | port => exact isBlank_of_isDigit (Url.isDigit_of_mem_toString h)
  | subpath => exact (s.subpath_plain c h).2

theorem PlainSettings.isBlank_of_mem_written (h : c ∈ s.written k) : isBlank c = false := by
  have hquoted : c ∈ '\x22' :: (s.value k ++ ['\x22']) → isBlank c = false := by
    intro h
    simp only [List.mem_cons, List.mem_append, List.not_mem_nil, or_false] at h
    rcases h with rfl | h | rfl
    · rfl
    · exact isBlank_of_mem_value h
    · rfl
  cases k with
  | ip => exact hquoted h
  | port => exact isBlank_of_mem_value (k := .port) h
  | subpath => exact hquoted h

/-- **What is written is read**, if no digit follows. -/
theorem PlainSettings.writes_written {later : List Char}
    (h : ∀ c ∈ later.head?, c.isDigit = false) :
    k.Writes (s.value k) (s.written k ++ later) := by
  cases k with
  | ip =>
    have hquote : '\x22' ∉ s.ip.toList :=
      fun hc => absurd (s.isSchemeChar_of_mem_ip hc) (by decide)
    refine ⟨?_, hquote, later, by simp [written, value]⟩
    rw [value, ne_eq, String.toList_eq_nil_iff]
    exact s.ip_ne_empty
  | port =>
    exact ⟨Url.toList_toString_ne_nil _, fun c hc => Url.isDigit_of_mem_toString hc, later, rfl, h⟩
  | subpath =>
    have hquote : '\x22' ∉ s.subpath.toList := fun hc => (s.subpath_plain _ hc).1 rfl
    exact ⟨hquote, later, by simp [written, value]⟩

/-- A key holds no blank. -/
theorem Setting.isBlank_of_mem_key (h : c ∈ k.key.toList) : isBlank c = false := by
  have table : k.key.toList.all (fun c => !isBlank c) = true := by cases k <;> rfl
  simpa using List.all_eq_true.mp table c h

/-- **No line holds the end of one.** -/
theorem FileLine.notMem_chars (line : FileLine) :
    '\n' ∉ line.chars s ∧ '\r' ∉ line.chars s := by
  cases line with
  | other text single free => exact single
  | assignment k indent gap gap' behind =>
    have hgap : ∀ gap : Gap, '\n' ∉ gap.chars ∧ '\r' ∉ gap.chars := fun gap =>
      ⟨fun h => absurd (gap.spaces _ h) (by decide), fun h => absurd (gap.spaces _ h) (by decide)⟩
    have hkey : '\n' ∉ k.key.toList ∧ '\r' ∉ k.key.toList :=
      ⟨fun h => absurd (Setting.isBlank_of_mem_key h) (by decide),
        fun h => absurd (Setting.isBlank_of_mem_key h) (by decide)⟩
    have hwritten : '\n' ∉ s.written k ∧ '\r' ∉ s.written k :=
      ⟨fun h => absurd (PlainSettings.isBlank_of_mem_written h) (by decide),
        fun h => absurd (PlainSettings.isBlank_of_mem_written h) (by decide)⟩
    simp [chars, hgap, hkey, hwritten]

end Values

/-! ## The ends of lines -/

theorem unifyLineEnds_append {line : List Char} (h : '\r' ∉ line) (rest : List Char) :
    unifyLineEnds (line ++ rest) = line ++ unifyLineEnds rest := by
  induction line with
  | nil => rfl
  | cons c line ih =>
    simp only [List.mem_cons, not_or] at h
    rw [List.cons_append, unifyLineEnds, if_neg (Ne.symm h.1), ih h.2, List.cons_append]
    rintro cs rfl
    exact absurd rfl h.1

/-- An end of a line is one line feed then, unless half of one is left over. -/
theorem unifyLineEnds_ending {ending : LineEnd} {rest : List Char}
    (h : ending = .carriageReturn → rest.head? ≠ some '\n') :
    unifyLineEnds (ending.chars ++ rest) = '\n' :: unifyLineEnds rest := by
  cases ending with
  | lineFeed => rfl
  | both => rfl
  | carriageReturn =>
    cases rest with
    | nil => rfl
    | cons c rest =>
      have hc : c ≠ '\n' := fun he => h rfl (he ▸ rfl)
      show unifyLineEnds ('\r' :: c :: rest) = _
      rw [unifyLineEnds, if_pos rfl]
      rintro cs - hcs
      exact hc (List.cons.inj hcs).1

section Files

variable {s : PlainSettings} {k : Setting} {value line rest : List Char}

/-- **The ends of all lines are unified**, and nothing else is changed. -/
theorem unifyLineEnds_fileChars (s : PlainSettings) (ending : LineEnd) (lines : List FileLine) :
    unifyLineEnds (fileChars s ending lines) = fileChars s .lineFeed lines := by
  induction lines with
  | nil => rfl
  | cons line lines ih =>
    have hcons : ∀ ending : LineEnd, fileChars s ending (line :: lines)
        = line.chars s ++ (ending.chars ++ fileChars s ending lines) := by
      intro ending
      rw [fileChars, List.flatMap_cons, List.append_assoc]
      rfl
    have hhalf : ending = .carriageReturn → (fileChars s ending lines).head? ≠ some '\n' := by
      rintro rfl hhead
      obtain ⟨line', -, hmem⟩ := List.mem_flatMap.mp (List.mem_of_mem_head? hhead)
      rcases List.mem_append.mp hmem with hmem | hmem
      · exact line'.notMem_chars.1 hmem
      · exact absurd hmem (by decide)
    rw [hcons, hcons, unifyLineEnds_append line.notMem_chars.2, unifyLineEnds_ending hhalf, ih]
    rfl

/-- **The bytes of a text** are read as that text, with the ends of its lines
unified. -/
theorem ofFile?_toUTF8 (text : String) :
    ofFile? text.toUTF8 = some (String.ofList (unifyLineEnds text.toList)) := by
  have hbytes : String.fromUTF8? text.toUTF8 = some text := dif_pos text.isValidUTF8
  rw [ofFile?, hbytes, Option.map_some]

/-! ## The search for a setting -/

theorem ServerSettings.lines_append (h : '\n' ∉ line) (rest : List Char) :
    lines (line ++ '\n' :: rest) = (line ++ '\n' :: rest) :: lines rest := by
  have hlater : laterLines (line ++ '\n' :: rest) = lines rest := by
    induction line with
    | nil => rfl
    | cons c line ih =>
      simp only [List.mem_cons, not_or] at h
      rw [List.cons_append, laterLines, if_neg (Ne.symm h.1), ih h.2]
  rw [lines, hlater]

namespace Setting

open ServerSettings

/-- The search begins with the first line. -/
theorem assigned?_append (h : '\n' ∉ line) (rest : List Char) :
    k.assigned? (line ++ '\n' :: rest)
      = ((afterKey? k.key.toList (line ++ '\n' :: rest)).bind k.value?).or
        (k.assigned? rest) := by
  rw [assigned?, ServerSettings.assigned?, lines_append h, List.findSome?_cons]
  cases (afterKey? k.key.toList (line ++ '\n' :: rest)).bind k.value? <;> rfl

/-- **The search ends** if an assignment stands at the start of the text. -/
theorem IsAssigned.assigned? {cs : List Char} (h : k.IsAssigned value (cs.dropWhile isBlank)) :
    k.assigned? cs = some value := by
  rw [Setting.assigned?, ServerSettings.assigned?, lines, List.findSome?_cons,
    afterKey?_bind_eq_some_iff.mpr h]

/-- A key that a text starts with stands on its first line. -/
theorem startsWith_key_of_append (h : k.key.toList <+: line ++ '\n' :: rest) :
    k.key.toList <+: line := by
  rcases List.prefix_or_prefix_of_prefix h (List.prefix_append line _) with hkey | ⟨back, hback⟩
  · exact hkey
  · cases back with
    | nil => rw [← hback, List.append_nil]
    | cons c back =>
      rw [← hback, List.prefix_append_right_inj, List.cons_prefix_cons] at h
      have hmem : '\n' ∈ k.key.toList := by
        rw [← hback, h.1]
        simp
      exact absurd (isBlank_of_mem_key hmem) (by decide)

/-- **The search passes over a line** that does not start with the key, even over
one of blanks only. -/
theorem assigned?_of_other (h : '\n' ∉ line) (hother : ¬ k.key.toList <+: line.dropWhile isBlank)
    (rest : List Char) : k.assigned? (line ++ '\n' :: rest) = k.assigned? rest := by
  rw [assigned?_append h]
  cases hfound : (afterKey? k.key.toList (line ++ '\n' :: rest)).bind k.value? with
  | none => rfl
  | some value =>
    have hassigned := afterKey?_bind_eq_some_iff.mp hfound
    rw [List.dropWhile_append] at hassigned
    split at hassigned
    · -- what was found stands on a later line
      have hlater : k.assigned? rest = some value := IsAssigned.assigned? hassigned
      exact hlater.symm
    · obtain ⟨gap, gap', written, htext, -⟩ := hassigned
      exact absurd (startsWith_key_of_append ⟨_, htext.symm⟩) hother

end Setting

/-- A line that does not assign a setting does not start with its key. -/
theorem FileLine.not_startsWith_key {line : FileLine} (h : line.setting? ≠ some k) :
    ¬ k.key.toList <+: (line.chars s).dropWhile isBlank := by
  cases line with
  | other text single free => exact free k
  | assignment k' indent gap gap' behind =>
    have hk : k' ≠ k := fun hk => h (congrArg some hk)
    rw [chars, dropWhile_run (fun c hc => indent.isBlank_of_mem hc)
      (Setting.isBlank_of_head?_key k' _)]
    rintro ⟨back, hback⟩
    cases k <;> cases k' <;> first | exact hk rfl | simp [Setting.key] at hback

/-- **A line that assigns a setting** ends the search for it. -/
theorem FileLine.assigned?_chars {line : FileLine} (h : line.setting? = some k)
    (rest : List Char) :
    k.assigned? (line.chars s ++ '\n' :: rest) = some (s.value k) := by
  cases line with
  | other text single free => cases h
  | assignment k' indent gap gap' behind =>
    cases h
    have hwrites : k.Writes (s.value k) (s.written k ++ (behind.chars ++ '\n' :: rest)) := by
      refine PlainSettings.writes_written fun c hc => ?_
      cases hbehind : behind.chars with
      | nil =>
        rw [hbehind] at hc
        cases hc
        rfl
      | cons d ds =>
        have hmem : c ∈ behind.chars := by
          rw [hbehind] at hc ⊢
          cases hc
          exact List.mem_cons_self
        rcases behind.spaces c hmem with rfl | rfl <;> rfl
    have hassigned : k.IsAssigned (s.value k) (k.key.toList ++ (gap.chars ++ '=' ::
        (gap'.chars ++ (s.written k ++ (behind.chars ++ '\n' :: rest))))) :=
      ⟨gap.chars, gap'.chars, _, rfl, fun c hc => gap.isBlank_of_mem hc,
        fun c hc => gap'.isBlank_of_mem hc, hwrites⟩
    refine Setting.IsAssigned.assigned? ?_
    have hdrop := hassigned.dropWhile_append fun c hc => indent.isBlank_of_mem hc
    simp only [chars, List.append_assoc, List.cons_append]
    rwa [hdrop]

/-- **Each setting of a file is found.** -/
theorem assigned?_fileChars {lines : List FileLine} (h : ∃ line ∈ lines, line.setting? = some k) :
    k.assigned? (fileChars s .lineFeed lines) = some (s.value k) := by
  induction lines with
  | nil =>
    obtain ⟨_, hmem, -⟩ := h
    cases hmem
  | cons line lines ih =>
    have hcons : fileChars s .lineFeed (line :: lines)
        = line.chars s ++ '\n' :: fileChars s .lineFeed lines := by
      simp [fileChars, LineEnd.chars]
    rw [hcons]
    by_cases hk : line.setting? = some k
    · exact FileLine.assigned?_chars hk _
    · rw [Setting.assigned?_of_other line.notMem_chars.1 (FileLine.not_startsWith_key hk)]
      obtain ⟨line', hmem, hline'⟩ := h
      rcases List.mem_cons.mp hmem with rfl | hmem
      · exact absurd hline' hk
      · exact ih ⟨line', hmem, hline'⟩

/-! ## The base address -/

/-- A host to connect to stays the same. -/
theorem BaseUrl.connectHost_connectHost (ip : String) :
    connectHost (connectHost ip) = connectHost ip := by
  by_cases h : ip = anyHost
  · rw [h]
    rfl
  · have hsame : connectHost ip = ip := if_neg h
    rw [hsame, hsame]

/-- The subpath is in normal form. -/
theorem PlainSettings.tidySubpath_subpath (s : PlainSettings) :
    BaseUrl.tidySubpath s.subpath = s.subpath := by
  have hblank : ∀ c ∈ s.subpath.toList.getLast?, isBlank c = false :=
    fun c hc => (s.subpath_plain c (List.mem_of_getLast? hc)).2
  rw [← String.toList_inj, BaseUrl.toList_tidySubpath, BaseUrl.subpathChars_eq_self_iff]
  rcases s.subpath_shape with hempty | ⟨core, hcore, hfirst, hlast⟩
  · refine ⟨Or.inl (String.toList_eq_nil_iff.mpr hempty), ?_, hblank⟩
    rw [hempty]
    rintro ⟨⟩
  · exact ⟨Or.inr ⟨core, hcore, hfirst⟩, hlast, hblank⟩

/-- **What is read from a file** are its settings. -/
theorem outcome_ofText_fileChars {τ : Type} {lines : List FileLine}
    (h : ∀ k : Setting, ∃ line ∈ lines, line.setting? = some k) :
    (ServerSettings.ofText (String.ofList (fileChars s .lineFeed lines)) :
        Finding τ ServerSettings).outcome
      = .ok ⟨BaseUrl.connectHost s.ip, s.port, s.subpath⟩ := by
  have hfound : ∀ k : Setting, k.assigned? (String.ofList (fileChars s .lineFeed lines)).toList
      = some (s.value k) := by
    intro k
    rw [String.toList_ofList]
    exact assigned?_fileChars (h k)
  have htrim : ∀ k : Setting, trim (s.value k) = s.value k := fun k =>
    trim_eq_self (fun c hc => PlainSettings.isBlank_of_mem_value (List.mem_of_mem_head? hc))
      (fun c hc => PlainSettings.isBlank_of_mem_value (List.mem_of_getLast? hc))
  have hip : ServerSettings.ipOf (some (s.value .ip)) = BaseUrl.connectHost s.ip := by
    rw [ServerSettings.ipOf, Option.elim_some, htrim, PlainSettings.value, String.ofList_toList]
  have hport : ServerSettings.portOf (some (s.value .port)) = s.port := by
    rw [ServerSettings.portOf, Option.elim_some, PlainSettings.value, Url.ofDigitChars_toString,
      if_pos s.port_le]
  have hsubpath : ServerSettings.subpathOf (some (s.value .subpath)) = s.subpath := by
    rw [ServerSettings.subpathOf, Option.elim_some, htrim, PlainSettings.value,
      String.ofList_toList, s.tidySubpath_subpath]
  rw [ServerSettings.outcome_ofText, hfound, hfound, hfound, hip, hport, hsubpath]
  rw [hfound]
  rintro digits ⟨⟩
  exact Url.length_toString_le s.port_le

theorem PlainSettings.baseUrl_eq (s : PlainSettings) :
    ServerSettings.baseUrl ⟨BaseUrl.connectHost s.ip, s.port, s.subpath⟩ = s.baseUrl := by
  rw [ServerSettings.baseUrl, BaseUrl.ofParts, BaseUrl.connectHost_connectHost,
    s.tidySubpath_subpath]
  rfl

end Files

/-- **The base address of plain settings can be used.** -/
theorem PlainSettings.isUsable_baseUrl (s : PlainSettings) :
    BaseUrl.isUsable s.baseUrl = true := by
  have hparts : BaseUrl.ofParts s.ip s.port s.subpath = s.baseUrl := by
    rw [BaseUrl.ofParts, s.tidySubpath_subpath]
    rfl
  obtain ⟨v, hv, -⟩ := BaseUrl.split?_ofParts s.ip_ne_empty
    (fun c hc => s.isSchemeChar_of_mem_ip hc) s.port_le s.subpath
  rw [← hparts, BaseUrl.isUsable, hv, Option.isSome_some]

/-- **What a file with text in it comes to** is what its text comes to, and a failure is
that of its text. -/
theorem ServerSettings.outcome_ofFiles_eq {τ : Type} {env : Environment} {platform : Platform}
    {files : FileTree} {path : Path} {bytes : ByteArray} {content : String}
    (hpath : ServerSettings.path env platform = (.ok path : Except (Fault τ) Path))
    (hfile : files.read path = .ok bytes) (hcontent : ofFile? bytes = some content) :
    (ofFiles env platform files : Finding τ _).outcome
      = (ofText content : Finding τ ServerSettings).outcome.map some := by
  have hfound : (Finding.ofExcept (ServerSettings.path env platform) : Finding τ Path).outcome
      = .ok path := by
    rw [Finding.ofExcept, hpath]
  unfold ofFiles
  rw [Finding.bind_of_ok hfound, hfile]
  dsimp only
  rw [hcontent]
  dsimp only
  rw [Finding.bind_of_ok (Finding.outcome_tell _), Finding.outcome_map]

/-- **What is read of a file** with text in it is what its text gives. -/
theorem ServerSettings.outcome_ofFiles {τ : Type} {env : Environment} {platform : Platform}
    {files : FileTree} {path : Path} {bytes : ByteArray} {content : String} {s : ServerSettings}
    (hpath : ServerSettings.path env platform = (.ok path : Except (Fault τ) Path))
    (hfile : files.read path = .ok bytes) (hcontent : ofFile? bytes = some content)
    (hs : (ofText content : Finding τ ServerSettings).outcome = .ok s) :
    (ofFiles env platform files : Finding τ _).outcome = .ok (some s) := by
  rw [outcome_ofFiles_eq hpath hfile hcontent, hs]
  rfl

/-- **The base address is that of the settings in the file.** If no text of the
user names a base address, and the file with the settings assigns each of them
on some line, then the base address is that of these settings, and it can be
used. -/
theorem Address.choose_of_file {τ : Type} (s : PlainSettings) (ending : LineEnd)
    {lines : List FileLine} (hlines : ∀ k : Setting, ∃ line ∈ lines, line.setting? = some k)
    {commandLine : Option String} {env : Environment} {platform : Platform} {files : FileTree}
    {path : Path} (hcommandLine : ∀ url ∈ commandLine, BaseUrl.isUsable url = false)
    (hvariable : ∀ url ∈ env.get? baseUrlVariable, BaseUrl.isUsable url = false)
    (hpath : ServerSettings.path env platform = (.ok path : Except (Fault τ) Path))
    (hfile : files.read path = .ok (String.ofList (fileChars s ending lines)).toUTF8) :
    (choose commandLine env platform files : Finding τ String).outcome = .ok s.baseUrl ∧
      BaseUrl.isUsable s.baseUrl = true := by
  refine ⟨?_, s.isUsable_baseUrl⟩
  have hnone : ∀ {text : Option String}, (∀ url ∈ text, BaseUrl.isUsable url = false) →
      text.filter BaseUrl.isUsable = none := by
    intro text h
    cases text with
    | none => rfl
    | some url => simp [h url rfl]
  have htext : text? commandLine env = none := by
    rw [text?, hnone hcommandLine, hnone hvariable]
    rfl
  have hcontent : ofFile? (String.ofList (fileChars s ending lines)).toUTF8
      = some (String.ofList (fileChars s .lineFeed lines)) := by
    rw [ofFile?_toUTF8, String.toList_ofList, unifyLineEnds_fileChars]
  have hsettings := ServerSettings.outcome_ofFiles hpath hfile hcontent
    (outcome_ofText_fileChars hlines)
  rw [outcome_choose_of_none htext, fromSettings, Finding.bind_of_ok hsettings, ← s.baseUrl_eq]
  rfl

/-- A server that listens everywhere. -/
def PlainSettings.openToAll : PlainSettings where
  ip := "0.0.0.0"
  port := 8080
  subpath := "/suwayomi"
  ip_ne_empty := by decide
  ip_plain := by simp
  port_le := by decide
  subpath_shape := Or.inr ⟨"suwayomi".toList, rfl, by decide, by decide⟩
  subpath_plain := by
    have table : "/suwayomi".toList.all (fun c => c != '\x22' && !isBlank c) = true := rfl
    simpa using table

/-- A file in which a comment quotes a key, a line is empty, and the settings are
out of order. -/
def FileLine.shuffled : List FileLine :=
  let empty : Gap := ⟨[], List.forall_mem_nil _⟩
  let tab : Gap := ⟨['\t'], by simp⟩
  [.other "# server.port = 1".toList (by decide) (by intro k; cases k <;> decide +kernel),
    .assignment .port tab empty tab empty,
    .other [] (by decide) (by intro k; cases k <;> decide +kernel),
    .assignment .subpath empty tab tab tab,
    .assignment .ip empty empty empty empty]

/-- A file in the root directory is read. -/
theorem FileTree.read_at_root (bytes : ByteArray) :
    (⟨[], [(["server.conf"], .file bytes)]⟩ : FileTree).read (.ofString "/server.conf")
      = .ok bytes := rfl

/-- The settings of that file count if the command line names no address. -/
theorem Address.choose_of_file_of_shuffled :
    let text := String.ofList (fileChars .openToAll .both FileLine.shuffled)
    let files : FileTree := ⟨[], [(["server.conf"], .file text.toUTF8)]⟩
    let env : Environment := ⟨[("SUWAYOMI_CONFIG_PATH", "/server.conf")], none⟩
    (∀ k : Setting, ∃ line ∈ FileLine.shuffled, line.setting? = some k) ∧
      (∀ url ∈ some "nowhere", BaseUrl.isUsable url = false) ∧
      (∀ url ∈ env.get? baseUrlVariable, BaseUrl.isUsable url = false) ∧
      (ServerSettings.path env .linux : Except (Fault Rat) Path) = .ok (.ofString "/server.conf") ∧
      files.read (.ofString "/server.conf") = .ok text.toUTF8 ∧
      (choose (some "nowhere") env .linux files : Finding Rat String).outcome
        = .ok "http://127.0.0.1:8080/suwayomi" := by
  intro text files env
  have hlines : ∀ k : Setting, ∃ line ∈ FileLine.shuffled, line.setting? = some k := by
    intro k
    cases k with
    | ip => exact ⟨_, List.mem_of_getElem? (i := 4) rfl, rfl⟩
    | port => exact ⟨_, List.mem_of_getElem? (i := 1) rfl, rfl⟩
    | subpath => exact ⟨_, List.mem_of_getElem? (i := 3) rfl, rfl⟩
  have hcommandLine : ∀ url ∈ some "nowhere", BaseUrl.isUsable url = false := by
    rintro url ⟨⟩
    decide +kernel
  have hvariable : ∀ url ∈ env.get? baseUrlVariable, BaseUrl.isUsable url = false := by
    have hnone : env.get? baseUrlVariable = none := by decide +kernel
    rw [hnone]
    rintro url ⟨⟩
  have hpath : (ServerSettings.path env .linux : Except (Fault Rat) Path)
      = .ok (.ofString "/server.conf") := by
    decide +kernel
  have hfile : files.read (.ofString "/server.conf") = .ok text.toUTF8 :=
    FileTree.read_at_root _
  exact ⟨hlines, hcommandLine, hvariable, hpath, hfile,
    (choose_of_file .openToAll .both hlines hcommandLine hvariable hpath hfile).1⟩

end LocalServer
