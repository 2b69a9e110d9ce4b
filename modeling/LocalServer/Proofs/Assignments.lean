import LocalServer.ServerSettings
import Mathlib.Data.List.Basic
import Mathlib.Data.List.TakeWhile

/-!
# Which assignment counts

The settings of the server are found by a search from line to line: at the
start of each line, blanks are passed over, and if a key stands there that is
followed by `=` and a value then the search is over. Blanks may hold line
ends, so a search that sets out from an empty line finds the assignment on a
later one, and a value may reach over several lines.

What counts is said here without a search. An **assignment** is a place in the
text where the key stands, with nothing but blanks before it on its line, and
is followed by blanks, `=`, blanks and a value (`Setting.Assigns`). A setting
is set by the assignment that has no other one before it
(`Setting.SetsFirst`), and not set if there is none; so an assignment that is
not complete hides no later one, and neither does a key in a comment or in a
longer name. `Setting.assigned?_eq_iff` says that the search finds this, and
`ServerSettings.ofText_readsFrom` what the settings are then.
-/

namespace LocalServer

open Text

/-! ## Values -/

/-- **The settings** that say where the server listens. -/
inductive Setting where
  /-- The address that it listens on. -/
  | ip
  /-- The port. -/
  | port
  /-- The subpath. -/
  | subpath
deriving DecidableEq, Repr

/-- **A text in double quotes** stands at the start of another, which goes on
behind it. -/
def IsQuoted (value text : List Char) : Prop :=
  '\x22' ∉ value ∧ ∃ later, text = '\x22' :: (value ++ '\x22' :: later)

/-- **A run of digits** stands at the start of a text, and goes on as long as it
can. -/
def IsDigitRun (value text : List Char) : Prop :=
  value ≠ [] ∧ (∀ c ∈ value, c.isDigit = true) ∧
    ∃ later, text = value ++ later ∧ ∀ c ∈ later.head?, c.isDigit = false

namespace Setting

/-- The key of a setting. -/
def key : Setting → String
  | ip => "server.ip"
  | port => "server.port"
  | subpath => "server.webUISubpath"

/-- The reader of its values. -/
def value? : Setting → List Char → Option (List Char)
  | ip => ServerSettings.filledValue?
  | port => ServerSettings.digitsValue?
  | subpath => ServerSettings.quotedValue?

/-- **How a value is written**: the address and the subpath in double quotes,
the address not empty, and the port as a run of digits. -/
def Writes : Setting → List Char → List Char → Prop
  | ip, value, text => value ≠ [] ∧ IsQuoted value text
  | port, value, text => IsDigitRun value text
  | subpath, value, text => IsQuoted value text

end Setting

namespace ServerSettings

variable {value text : List Char}

theorem quotedValue?_eq_some_iff : quotedValue? text = some value ↔ IsQuoted value text := by
  constructor
  · intro h
    unfold quotedValue? at h
    split at h
    · next cs =>
      split at h
      · next hquote =>
        cases h
        exact ⟨notMem_cutAt_fst _ _, _, by rw [append_cutAt hquote]⟩
      · cases h
    · cases h
  · rintro ⟨hvalue, later, rfl⟩
    simp only [quotedValue?, cutAt_append_cons hvalue]
    exact if_pos (by simp)

theorem filledValue?_eq_some_iff :
    filledValue? text = some value ↔ value ≠ [] ∧ IsQuoted value text := by
  rw [filledValue?, Option.filter_eq_some_iff, quotedValue?_eq_some_iff, decide_eq_true_eq,
    and_comm]

theorem digitsValue?_eq_some_iff : digitsValue? text = some value ↔ IsDigitRun value text := by
  constructor
  · intro h
    simp only [digitsValue?] at h
    split at h
    · cases h
    · next hne =>
      cases h
      refine ⟨hne, fun c hc => List.mem_takeWhile_imp hc, text.dropWhile Char.isDigit,
        (List.takeWhile_append_dropWhile).symm, fun c hc => ?_⟩
      rw [Option.mem_def] at hc
      simpa [hc] using List.head?_dropWhile_not Char.isDigit text
  · rintro ⟨hne, hdigits, later, rfl, hlater⟩
    rw [digitsValue?, takeWhile_run hdigits hlater]
    exact if_neg hne

/-! ## Lines -/

variable {cs line : List Char}

theorem mem_laterLines : line ∈ laterLines cs ↔ ∃ front, cs = front ++ '\n' :: line := by
  induction cs with
  | nil => simp [laterLines]
  | cons c cs ih =>
    unfold laterLines
    split
    · next hc =>
      subst hc
      rw [List.mem_cons, ih]
      constructor
      · rintro (rfl | ⟨front, rfl⟩)
        · exact ⟨[], rfl⟩
        · exact ⟨'\n' :: front, rfl⟩
      · rintro ⟨_ | ⟨d, front⟩, h⟩
        · cases h
          exact Or.inl rfl
        · cases h
          exact Or.inr ⟨front, rfl⟩
    · next hc =>
      rw [ih]
      constructor
      · rintro ⟨front, rfl⟩
        exact ⟨c :: front, rfl⟩
      · rintro ⟨_ | ⟨d, front⟩, h⟩
        · cases h
          exact absurd rfl hc
        · cases h
          exact ⟨front, rfl⟩

/-- Each line is part of those before it. -/
theorem pairwise_lines (cs : List Char) : (lines cs).Pairwise fun a b => b <:+ a := by
  have hsuffix : ∀ {cs : List Char}, ∀ line ∈ laterLines cs, line <:+ cs := by
    intro cs line hline
    obtain ⟨front, rfl⟩ := mem_laterLines.mp hline
    exact ⟨front ++ ['\n'], by simp⟩
  refine List.pairwise_cons.mpr ⟨hsuffix, ?_⟩
  induction cs with
  | nil => exact List.Pairwise.nil
  | cons c cs ih =>
    unfold laterLines
    split
    · exact List.pairwise_cons.mpr ⟨hsuffix, ih⟩
    · exact ih

/-- A text that starts later has its first character that is not blank no
earlier. -/
theorem length_dropWhile_le_of_suffix {p : Char → Bool} (h : line <:+ cs) :
    (line.dropWhile p).length ≤ (cs.dropWhile p).length := by
  induction cs with
  | nil => rw [List.suffix_nil.mp h]
  | cons c cs ih =>
    rcases List.suffix_cons_iff.mp h with rfl | h
    · exact le_rfl
    · rw [List.dropWhile_cons]
      split
      · exact ih h
      · exact ((List.dropWhile_sublist p).length_le.trans h.length_le).trans (Nat.le_succ _)

end ServerSettings

namespace Setting

variable {k : Setting} {cs line value value' text before before' : List Char}

/-- **The values that are read** are those that are written. -/
theorem value?_eq_some_iff : k.value? text = some value ↔ k.Writes value text := by
  cases k with
  | ip => exact ServerSettings.filledValue?_eq_some_iff
  | port => exact ServerSettings.digitsValue?_eq_some_iff
  | subpath => exact ServerSettings.quotedValue?_eq_some_iff

/-- A value does not start with a blank. -/
theorem Writes.isBlank_of_head? (h : k.Writes value text) :
    ∀ c ∈ text.head?, isBlank c = false := by
  have hquoted : IsQuoted value text → ∀ c ∈ text.head?, isBlank c = false := by
    rintro ⟨-, later, rfl⟩ c ⟨⟩
    rfl
  cases k with
  | ip => exact hquoted h.2
  | subpath => exact hquoted h
  | port =>
    obtain ⟨hne, hdigits, later, rfl, -⟩ := h
    obtain ⟨d, ds, rfl⟩ := List.exists_cons_of_ne_nil hne
    rintro c ⟨⟩
    exact isBlank_of_isDigit (hdigits d List.mem_cons_self)

/-! ## Assignments -/

/-- **An assignment stands at the start of a text**: the key, blanks, `=`,
blanks and a value. -/
def IsAssigned (k : Setting) (value text : List Char) : Prop :=
  ∃ gap gap' written, text = k.key.toList ++ (gap ++ '=' :: (gap' ++ written)) ∧
    (∀ c ∈ gap, isBlank c = true) ∧ (∀ c ∈ gap', isBlank c = true) ∧ k.Writes value written

/-- A key does not start with a blank. -/
theorem isBlank_of_head?_key (k : Setting) (text : List Char) :
    ∀ c ∈ (k.key.toList ++ text).head?, isBlank c = false := by
  cases k <;> rintro c ⟨⟩ <;> rfl

/-- **What is found at the start of a line** is the assignment behind its
blanks. -/
theorem afterKey?_bind_eq_some_iff :
    (ServerSettings.afterKey? k.key.toList line).bind k.value? = some value ↔
      k.IsAssigned value (line.dropWhile isBlank) := by
  rw [Option.bind_eq_some_iff]
  simp only [value?_eq_some_iff]
  constructor
  · rintro ⟨written, hafter, hwrites⟩
    obtain ⟨rest, hrest, hmatch⟩ := Option.bind_eq_some_iff.mp hafter
    rw [List.isPrefixOf?_eq_some_iff_append_eq] at hrest
    split at hmatch
    · next text htext =>
      cases hmatch
      refine ⟨rest.takeWhile isBlank, text.takeWhile isBlank, _, ?_,
        fun c hc => List.mem_takeWhile_imp hc, fun c hc => List.mem_takeWhile_imp hc, hwrites⟩
      rw [List.takeWhile_append_dropWhile, ← htext, List.takeWhile_append_dropWhile, hrest]
    · cases hmatch
  · rintro ⟨gap, gap', written, hline, hgap, hgap', hwrites⟩
    refine ⟨written, ?_, hwrites⟩
    have hkey := List.isPrefixOf?_eq_some_iff_append_eq.mpr hline.symm
    have hequals : ∀ c ∈ ('=' :: (gap' ++ written)).head?, isBlank c = false := by
      rintro c ⟨⟩
      rfl
    simp only [ServerSettings.afterKey?, hkey, Option.bind_some, dropWhile_run hgap hequals,
      dropWhile_run hgap' hwrites.isBlank_of_head?]

/-- **An assignment in a text**: nothing but blanks stands before it on its
line. -/
structure Assigns (k : Setting) (cs before value : List Char) : Prop where
  margin : ∀ c ∈ afterLast '\n' before, isBlank c = true
  behind : ∃ behind, cs = before ++ behind ∧ k.IsAssigned value behind

/-- **The assignment that counts** has no other one before it. -/
structure SetsFirst (k : Setting) (cs before value : List Char) : Prop where
  assigns : k.Assigns cs before value
  first : ∀ before' value', k.Assigns cs before' value' → before.length ≤ before'.length

/-- **What a setting is set to** by a text, if it is set. -/
def IsSetTo (k : Setting) (cs : List Char) : Option (List Char) → Prop
  | some value => ∃ before, k.SetsFirst cs before value
  | none => ∀ before value, ¬ k.Assigns cs before value

open ServerSettings

/-- Behind the blanks of an assignment there are none. -/
theorem IsAssigned.dropWhile_append {indent : List Char} (h : k.IsAssigned value text)
    (hindent : ∀ c ∈ indent, isBlank c = true) : (indent ++ text).dropWhile isBlank = text := by
  obtain ⟨gap, gap', written, rfl, -⟩ := h
  exact dropWhile_run hindent (isBlank_of_head?_key k _)

/-- **An assignment in a text** stands at the start of a line, behind blanks. -/
theorem Assigns.exists_line (h : k.Assigns cs before value) :
    ∃ line ∈ lines cs, k.IsAssigned value (line.dropWhile isBlank) ∧
      cs = before ++ line.dropWhile isBlank := by
  obtain ⟨behind, rfl, hbehind⟩ := h.behind
  have hdrop := hbehind.dropWhile_append h.margin
  refine ⟨afterLast '\n' before ++ behind, ?_, by rwa [hdrop], by rw [hdrop]⟩
  by_cases hbreak : '\n' ∈ before
  · refine List.mem_cons_of_mem _ (mem_laterLines.mpr ⟨beforeLast '\n' before, ?_⟩)
    rw [← List.cons_append, ← List.append_assoc, beforeLast_append_afterLast hbreak]
  · rw [afterLast_of_notMem hbreak]
    exact List.mem_cons_self

/-- **What stands at the start of a line**, behind blanks, is an assignment in the
text. -/
theorem exists_assigns_of_line (hline : line ∈ lines cs)
    (h : k.IsAssigned value (line.dropWhile isBlank)) :
    ∃ before, k.Assigns cs before value ∧ cs = before ++ line.dropWhile isBlank := by
  have hblank : ∀ c ∈ line.takeWhile isBlank, isBlank c = true :=
    fun c hc => List.mem_takeWhile_imp hc
  rcases List.mem_cons.mp hline with rfl | hline
  · have hcs := (List.takeWhile_append_dropWhile (p := isBlank) (l := line)).symm
    exact ⟨line.takeWhile isBlank,
      ⟨fun c hc => hblank c (mem_of_mem_afterLast hc), _, hcs, h⟩, hcs⟩
  · obtain ⟨front, rfl⟩ := mem_laterLines.mp hline
    have hcs : front ++ '\n' :: line
        = (front ++ '\n' :: line.takeWhile isBlank) ++ line.dropWhile isBlank := by
      rw [List.append_assoc, List.cons_append, List.takeWhile_append_dropWhile]
    refine ⟨front ++ '\n' :: line.takeWhile isBlank, ⟨fun c hc => ?_, _, hcs, h⟩, hcs⟩
    rw [afterLast_append_cons_self] at hc
    exact hblank c (mem_of_mem_afterLast hc)

/-! ## The search -/

/-- **The value that is found** for a setting. -/
def assigned? (k : Setting) (cs : List Char) : Option (List Char) :=
  ServerSettings.assigned? k.key k.value? cs

/-- What is assigned at a place is one value. -/
theorem IsAssigned.unique (h : k.IsAssigned value text) (h' : k.IsAssigned value' text) :
    value = value' := by
  have hfound : ∀ {v : List Char}, k.IsAssigned v text →
      (afterKey? k.key.toList text).bind k.value? = some v := by
    intro v hv
    refine afterKey?_bind_eq_some_iff.mpr ?_
    rwa [show text.dropWhile isBlank = text from hv.dropWhile_append (List.forall_mem_nil _)]
  exact Option.some.inj ((hfound h).symm.trans (hfound h'))

/-- **There is one assignment that counts** at most. -/
theorem SetsFirst.unique (h : k.SetsFirst cs before value) (h' : k.SetsFirst cs before' value') :
    before = before' ∧ value = value' := by
  have hlength := Nat.le_antisymm (h.first _ _ h'.assigns) (h'.first _ _ h.assigns)
  obtain ⟨behind, rfl, hbehind⟩ := h.assigns.behind
  obtain ⟨behind', hcs, hbehind'⟩ := h'.assigns.behind
  obtain ⟨rfl, rfl⟩ := List.append_inj hcs hlength
  exact ⟨rfl, hbehind.unique hbehind'⟩

/-- The search ends with nothing if no assignment is in the text. -/
theorem assigned?_eq_none_iff :
    k.assigned? cs = none ↔ ∀ before value, ¬ k.Assigns cs before value := by
  rw [assigned?, ServerSettings.assigned?, List.findSome?_eq_none_iff]
  constructor
  · intro h before value hassigns
    obtain ⟨line, hline, hassigned, -⟩ := hassigns.exists_line
    cases (h line hline).symm.trans (afterKey?_bind_eq_some_iff.mpr hassigned)
  · intro h line hline
    rw [Option.eq_none_iff_forall_ne_some]
    intro value hvalue
    obtain ⟨before, hassigns, -⟩ :=
      exists_assigns_of_line hline (afterKey?_bind_eq_some_iff.mp hvalue)
    exact h before value hassigns

/-- **What the search ends with** is the assignment that counts. -/
theorem exists_setsFirst (h : k.assigned? cs = some value) :
    ∃ before, k.SetsFirst cs before value := by
  obtain ⟨earlier, line, later, hlines, hfound, hearlier⟩ := List.findSome?_eq_some_iff.mp h
  have hline : line ∈ lines cs := by
    rw [hlines]
    simp
  obtain ⟨before, hassigns, hcs⟩ :=
    exists_assigns_of_line hline (afterKey?_bind_eq_some_iff.mp hfound)
  refine ⟨before, hassigns, fun before' value' hassigns' => ?_⟩
  obtain ⟨line', hline', hassigned', hcs'⟩ := hassigns'.exists_line
  -- the other one was not found on an earlier line
  have hsuffix : line' <:+ line := by
    rw [hlines, List.mem_append, List.mem_cons] at hline'
    rcases hline' with hline' | rfl | hline'
    · cases (hearlier line' hline').symm.trans (afterKey?_bind_eq_some_iff.mpr hassigned')
    · exact List.suffix_rfl
    · have hpairwise := pairwise_lines cs
      rw [hlines, List.pairwise_append, List.pairwise_cons] at hpairwise
      exact hpairwise.2.1.1 line' hline'
  have hle := length_dropWhile_le_of_suffix (p := isBlank) hsuffix
  have hlength := congrArg List.length hcs
  have hlength' := congrArg List.length hcs'
  rw [List.length_append] at hlength hlength'
  omega

/-- The search ends with the assignment that counts, and with no other. -/
theorem assigned?_eq_some_iff :
    k.assigned? cs = some value ↔ ∃ before, k.SetsFirst cs before value := by
  refine ⟨exists_setsFirst, fun ⟨before, hfirst⟩ => ?_⟩
  cases h : k.assigned? cs with
  | none => exact absurd hfirst.assigns (assigned?_eq_none_iff.mp h before value)
  | some value' =>
    obtain ⟨before', hfirst'⟩ := exists_setsFirst h
    rw [(hfirst.unique hfirst').2]

/-- **The search finds what the text sets.** -/
theorem assigned?_eq_iff {o : Option (List Char)} : k.assigned? cs = o ↔ k.IsSetTo cs o := by
  cases o with
  | none => exact assigned?_eq_none_iff
  | some value => exact assigned?_eq_some_iff

end Setting

/-! ## The settings in a text -/

namespace ServerSettings

variable {τ : Type} {cs : List Char}

/-- The address to connect to, by what is set. -/
def ipOf (o : Option (List Char)) : String :=
  o.elim "127.0.0.1" fun value => BaseUrl.connectHost (String.ofList (trim value))

/-- The port, by what is set. A number that is no port does not count. -/
def portOf (o : Option (List Char)) : Nat :=
  o.elim 4567 fun digits =>
    if Nat.ofDigitChars 10 digits 0 ≤ 65535 then Nat.ofDigitChars 10 digits 0 else 4567

/-- The tidied subpath, by what is set. -/
def subpathOf (o : Option (List Char)) : String :=
  o.elim "" fun value => BaseUrl.tidySubpath (String.ofList (trim value))

/-- **The settings that a text gives.** -/
structure ReadsFrom (s : ServerSettings) (cs : List Char) : Prop where
  ip : ∃ o, Setting.ip.IsSetTo cs o ∧ s.ip = ipOf o
  port : ∃ o, Setting.port.IsSetTo cs o ∧ s.port = portOf o
  subpath : ∃ o, Setting.subpath.IsSetTo cs o ∧ s.subpath = subpathOf o

/-- What the search finds is what a text gives. -/
theorem readsFrom_iff {s : ServerSettings} :
    s.ReadsFrom cs ↔ s = ⟨ipOf (Setting.ip.assigned? cs), portOf (Setting.port.assigned? cs),
      subpathOf (Setting.subpath.assigned? cs)⟩ := by
  constructor
  · rintro ⟨⟨ip, hip, eip⟩, ⟨port, hport, eport⟩, ⟨subpath, hsubpath, esubpath⟩⟩
    rw [Setting.assigned?_eq_iff.mpr hip, Setting.assigned?_eq_iff.mpr hport,
      Setting.assigned?_eq_iff.mpr hsubpath, ← eip, ← eport, ← esubpath]
  · rintro rfl
    exact ⟨⟨_, Setting.assigned?_eq_iff.mp rfl, rfl⟩, ⟨_, Setting.assigned?_eq_iff.mp rfl, rfl⟩,
      ⟨_, Setting.assigned?_eq_iff.mp rfl, rfl⟩⟩

theorem readIp_eq (cs : List Char) : readIp cs = ipOf (Setting.ip.assigned? cs) := by
  have h : assigned? "server.ip" filledValue? cs = Setting.ip.assigned? cs := rfl
  rw [readIp, h]
  cases Setting.ip.assigned? cs <;> rfl

theorem readSubpath_eq (cs : List Char) :
    readSubpath cs = subpathOf (Setting.subpath.assigned? cs) := by
  have h : assigned? "server.webUISubpath" quotedValue? cs = Setting.subpath.assigned? cs := rfl
  rw [readSubpath, h]
  cases Setting.subpath.assigned? cs <;> rfl

/-- **The port is read** if the number has not too many digits. -/
theorem outcome_readPort
    (hlimit : ∀ digits ∈ Setting.port.assigned? cs, digits.length ≤ digitLimit) :
    (readPort cs : Finding τ Nat).outcome = .ok (portOf (Setting.port.assigned? cs)) := by
  have h : assigned? "server.port" digitsValue? cs = Setting.port.assigned? cs := rfl
  rw [readPort, h]
  cases hfound : Setting.port.assigned? cs with
  | none => rfl
  | some digits =>
    dsimp only
    rw [if_neg (Nat.not_lt.mpr (hlimit digits hfound)), portOf, Option.elim_some]
    unfold Url.greatestPort
    split <;> rfl

/-- **What reading a text comes to**: what the search finds. -/
theorem outcome_ofText {content : String}
    (hlimit : ∀ digits ∈ Setting.port.assigned? content.toList, digits.length ≤ digitLimit) :
    (ofText content : Finding τ ServerSettings).outcome
      = .ok ⟨ipOf (Setting.ip.assigned? content.toList),
        portOf (Setting.port.assigned? content.toList),
        subpathOf (Setting.subpath.assigned? content.toList)⟩ := by
  unfold ofText
  rw [Finding.bind_of_ok (outcome_readPort hlimit), ← readIp_eq, ← readSubpath_eq]
  rfl

/-- **A text is read** as its grammar says. Unless the port that counts has more
digits than are read, reading comes to settings, and they are those that the
text gives. -/
theorem ofText_readsFrom {content : String}
    (h : ∀ before digits, Setting.port.SetsFirst content.toList before digits →
      digits.length ≤ digitLimit) :
    ∃ s, (ofText content : Finding τ ServerSettings).outcome = .ok s ∧
      ∀ s' : ServerSettings, s'.ReadsFrom content.toList ↔ s' = s := by
  refine ⟨_, outcome_ofText fun digits hfound => ?_, fun s' => readsFrom_iff⟩
  obtain ⟨before, hfirst⟩ := Setting.assigned?_eq_some_iff.mp hfound
  exact h before digits hfirst

/-- A text in which a comment, a longer name and an empty address stand before
what counts. -/
theorem ofText_readsFrom_of_late :
    let content := "# server.port = 1\nserver.ports = 2\nserver.ip = \x22\x22\n" ++
      "\x0b\n server.port\n=\t080;\nserver.ip=\x22 0.0.0.0\n\x22server.webUISubpath = \x22a\x22"
    (∀ before digits, Setting.port.SetsFirst content.toList before digits →
      digits.length ≤ digitLimit) ∧
    (ofText content : Finding Rat ServerSettings).outcome = .ok ⟨"127.0.0.1", 80, ""⟩ ∧
    ∀ s' : ServerSettings, s'.ReadsFrom content.toList ↔ s' = ⟨"127.0.0.1", 80, ""⟩ := by
  intro content
  have hport : Setting.port.assigned? content.toList = some ['0', '8', '0'] := by decide +kernel
  have hlimit : ∀ before digits, Setting.port.SetsFirst content.toList before digits →
      digits.length ≤ digitLimit := by
    intro before digits hfirst
    cases hport.symm.trans (Setting.assigned?_eq_some_iff.mpr ⟨before, hfirst⟩)
    decide
  obtain ⟨s, hs, hreads⟩ := ofText_readsFrom (τ := Rat) hlimit
  have houtcome : (ofText content : Finding Rat ServerSettings).outcome
      = .ok ⟨"127.0.0.1", 80, ""⟩ := by
    decide +kernel
  cases hs.symm.trans houtcome
  exact ⟨hlimit, houtcome, hreads⟩

end ServerSettings

end LocalServer
