import LocalServer.Proofs.Assignments
import LocalServer.Proofs.Lookups
import LocalServer.Proofs.Subpath

/-!
# Which subpaths are in normal form

A subpath from the settings is tidied twice on its way into the base address: when the
settings are read, and once more when the address is put together. The second time does
nothing to the subpaths in **normal form** (`BaseUrl.IsNormal`), and only to them: they
are empty or start with one slash, and end neither in a slash nor in a blank
(`BaseUrl.subpathChars_eq_self_iff`).

Tidying does not always come to such a subpath. It removes the blanks at the end before
it removes the slashes, so a blank that stands before the slashes is not removed with
the others, and stands at the end afterwards. This is all that can be left undone: the
start is always right, no slash is left at the end, and only a subpath that hides a
blank in this way (`BaseUrl.HidesBlank`) is changed by tidying it again
(`BaseUrl.tidySubpath_settles_iff`).
-/

namespace LocalServer

open Text Url

/-! ## Both ends -/

namespace Text

variable {p q : Char → Bool} {cs : List Char}

/-- **A text is left as it is** exactly if it does not end in the class. -/
theorem dropTrailing_eq_self_iff : dropTrailing p cs = cs ↔ ∀ c ∈ cs.getLast?, p c = false := by
  constructor
  · intro h c hc
    rw [← h] at hc
    exact of_getLast?_dropTrailing hc
  · exact dropTrailing_eq_self

/-- Dropping twice leaves a text as it is if both times do. -/
theorem dropTrailing_dropTrailing_eq_self_iff : dropTrailing p (dropTrailing q cs) = cs ↔
    (∀ c ∈ cs.getLast?, p c = false) ∧ ∀ c ∈ cs.getLast?, q c = false := by
  rw [← dropTrailing_eq_self_iff, ← dropTrailing_eq_self_iff]
  constructor
  · intro h
    -- what is as long as the text in the end was so in between
    have hp := dropTrailing_prefix p (dropTrailing q cs)
    have hq := dropTrailing_prefix q cs
    have hle := hp.length_le
    rw [h] at hle
    rw [hq.eq_of_length_le hle] at h
    exact ⟨h, hq.eq_of_length_le hle⟩
  · rintro ⟨hp, hq⟩
    rw [hq, hp]

end Text

/-- A part of an address is known by its written form. -/
theorem Url.marked_inj {mark : Char} {cs cs' : List Char} :
    marked mark cs = marked mark cs' ↔ cs = cs' := by
  cases cs <;> cases cs' <;> simp

namespace BaseUrl

variable {cs core : List Char}

/-- **One slash at the start** of a subpath, unless it is empty. -/
def StartsWithOneSlash (cs : List Char) : Prop :=
  cs = [] ∨ ∃ core, cs = '/' :: core ∧ core.head? ≠ some '/'

/-- **A tidied subpath starts with one slash**, unless it is empty. -/
theorem startsWithOneSlash_subpathChars (cs : List Char) :
    StartsWithOneSlash (subpathChars cs) := by
  rw [subpathChars_eq_marked]
  cases h : (dropTrailing (· == '/') (trim cs)).dropWhile (· == '/') with
  | nil => exact Or.inl rfl
  | cons c core =>
    refine Or.inr ⟨c :: core, rfl, fun hc => ?_⟩
    have hfirst := List.head?_dropWhile_not (· == '/') (dropTrailing (· == '/') (trim cs))
    rw [h, hc] at hfirst
    exact absurd hfirst (by decide)

/-! ## Tidying again -/

/-- **A subpath in normal form.** -/
structure IsNormal (cs : List Char) : Prop where
  /-- It is empty or starts with one slash. -/
  start : StartsWithOneSlash cs
  /-- It does not end in a slash. -/
  slash : cs.getLast? ≠ some '/'
  /-- It does not end in a blank. -/
  blank : ∀ c ∈ cs.getLast?, isBlank c = false

/-- **Tidying a subpath that starts with one slash** changes its end only. -/
theorem subpathChars_slash_cons (h : core.head? ≠ some '/') : subpathChars ('/' :: core)
    = marked '/' (dropTrailing (· == '/') (dropTrailing isBlank core)) := by
  have htrim : trim ('/' :: core) = '/' :: dropTrailing isBlank core := by
    rw [trim, List.dropWhile_cons_of_neg (by decide)]
    exact dropTrailing_append_cons_of_not (by decide) [] core
  have hprefix : dropTrailing (· == '/') (dropTrailing isBlank core) <+: core := by
    have hkept := dropTrailing_prefix (· == '/') (dropTrailing isBlank core)
    exact hkept.trans <| dropTrailing_prefix isBlank core
  rw [subpathChars_eq_marked, htrim, ← List.singleton_append, dropTrailing_append]
  split
  · next hnil =>
    rw [hnil]
    rfl
  · next hne =>
    obtain ⟨c, rest, hcons⟩ := List.exists_cons_of_ne_nil hne
    rw [hcons] at hprefix ⊢
    have hc : c ≠ '/' := by
      obtain ⟨later, rfl⟩ := hprefix
      rintro rfl
      exact h rfl
    rw [List.singleton_append, List.dropWhile_cons_of_pos rfl,
      List.dropWhile_cons_of_neg (by simpa using hc)]

/-- **What tidying leaves alone** are the subpaths in normal form. -/
theorem subpathChars_eq_self_iff : subpathChars cs = cs ↔ IsNormal cs := by
  have hcore : ∀ {core : List Char}, ('/' :: core).getLast? ≠ some '/' → core ≠ [] := by
    rintro core hslash rfl
    exact hslash rfl
  constructor
  · intro hself
    have hstart := startsWithOneSlash_subpathChars cs
    have hslash := getLast?_subpathChars cs
    rw [hself] at hstart hslash
    refine ⟨hstart, hslash, ?_⟩
    obtain rfl | ⟨core, rfl, hfirst⟩ := hstart
    · rintro c ⟨⟩
    · have hne := hcore hslash
      rw [subpathChars_slash_cons hfirst, ← marked_of_ne_nil hne, marked_inj,
        dropTrailing_dropTrailing_eq_self_iff] at hself
      rw [List.getLast?_cons_of_ne_nil hne]
      exact hself.2
  · rintro ⟨hstart, hslash, hblank⟩
    obtain rfl | ⟨core, rfl, hfirst⟩ := hstart
    · rfl
    · have hne := hcore hslash
      rw [List.getLast?_cons_of_ne_nil hne] at hslash hblank
      have hslash' : ∀ c ∈ core.getLast?, (c == '/') = false := fun c hc => by
        rw [beq_eq_false_iff_ne]
        rintro rfl
        exact hslash hc
      rw [subpathChars_slash_cons hfirst,
        dropTrailing_dropTrailing_eq_self_iff.mpr ⟨hslash', hblank⟩, marked_of_ne_nil hne]

/-! ## Hidden blanks -/

/-- **A subpath that hides a blank** behind slashes: without the blanks around it, it
ends in slashes, and a blank stands before them. -/
def HidesBlank (cs : List Char) : Prop :=
  ∃ front blank slashes, trim cs = front ++ blank :: '/' :: slashes ∧ isBlank blank = true ∧
    ∀ c ∈ slashes, c = '/'

/-- **A hidden blank** is what a tidied subpath ends in if it ends in a blank. -/
theorem exists_blank_getLast?_iff :
    (∃ c ∈ (subpathChars cs).getLast?, isBlank c = true) ↔ HidesBlank cs := by
  rw [getLast?_subpathChars_eq]
  constructor
  · rintro ⟨blank, hlast, hblank⟩
    obtain ⟨slashes, hslashes, htrim⟩ := exists_dropTrailing_append (· == '/') (trim cs)
    obtain ⟨front, hfront⟩ := List.getLast?_eq_some_iff.mp hlast
    cases slashes with
    | nil =>
      -- a blank with nothing behind it is removed before the slashes are
      rw [List.append_nil] at htrim
      rw [htrim] at hlast
      cases (isBlank_of_getLast?_trim hlast).symm.trans hblank
    | cons c slashes =>
      obtain rfl : c = '/' := by simpa using hslashes c List.mem_cons_self
      refine ⟨front, blank, slashes, ?_, hblank, fun d hd => ?_⟩
      · rw [← htrim, hfront, List.append_assoc]
        rfl
      · simpa using hslashes d (List.mem_cons_of_mem _ hd)
  · rintro ⟨front, blank, slashes, htrim, hblank, hslashes⟩
    have hne : (blank == '/') = false := by
      rw [beq_eq_false_iff_ne]
      rintro rfl
      cases hblank
    have hdropped : dropTrailing (· == '/') ('/' :: slashes) = [] := by
      rw [dropTrailing, List.reverse_eq_nil_iff, List.dropWhile_eq_nil_iff]
      intro c hc
      rcases List.mem_cons.mp (List.mem_reverse.mp hc) with rfl | hc
      · rfl
      · rw [hslashes c hc]
        rfl
    rw [htrim, dropTrailing_append_cons_of_not (p := (· == '/')) hne, hdropped,
      List.getLast?_concat]
    exact ⟨blank, rfl, hblank⟩

/-- **Tidying comes to a subpath in normal form** unless a blank was hidden. -/
theorem isNormal_subpathChars_iff : IsNormal (subpathChars cs) ↔ ¬ HidesBlank cs := by
  rw [← exists_blank_getLast?_iff]
  constructor
  · rintro h ⟨c, hc, hblank⟩
    cases (h.blank c hc).symm.trans hblank
  · intro h
    refine ⟨startsWithOneSlash_subpathChars cs, getLast?_subpathChars cs, fun c hc => ?_⟩
    rw [← Bool.not_eq_true]
    exact fun hblank => h ⟨c, hc, hblank⟩

/-! ## In the base address -/

theorem tidySubpath_eq_tidySubpath_iff {s s' : String} :
    tidySubpath s = tidySubpath s' ↔ subpathChars s.toList = subpathChars s'.toList := by
  rw [← String.toList_inj, toList_tidySubpath, toList_tidySubpath]

/-- Tidying a subpath again changes nothing unless a blank was hidden. -/
theorem tidySubpath_tidySubpath_iff {s : String} :
    tidySubpath (tidySubpath s) = tidySubpath s ↔ ¬ HidesBlank s.toList := by
  rw [tidySubpath_eq_tidySubpath_iff, toList_tidySubpath, subpathChars_eq_self_iff,
    isNormal_subpathChars_iff]

/-- Base addresses that differ in the subpath alone are the same if the subpaths are the
same when they have been tidied. -/
theorem ofParts_eq_ofParts_iff {ip : String} {port : Int} {s s' : String} :
    ofParts ip port s = ofParts ip port s' ↔ tidySubpath s = tidySubpath s' := by
  unfold ofParts
  exact String.append_right_inj _

/-- **The base address by the settings** has a subpath that has been tidied twice. -/
theorem baseUrl_of_setsFirst {τ : Type} {content subpath : String} {before : List Char}
    {settings : ServerSettings}
    (hfirst : Setting.subpath.SetsFirst content.toList before subpath.toList)
    (h : (ServerSettings.ofText content : Finding τ ServerSettings).outcome = .ok settings) :
    settings.baseUrl = ofParts settings.ip settings.port (tidySubpath subpath) := by
  have hfound := Setting.assigned?_eq_some_iff.mpr ⟨before, hfirst⟩
  obtain ⟨port, -, hsettings⟩ := Finding.of_bind_ok h
  cases hsettings
  -- the blanks around a value are removed before it is tidied, and then once more
  have htrimmed : tidySubpath (trimmed subpath) = tidySubpath subpath := by
    rw [tidySubpath_eq_tidySubpath_iff, toList_trimmed, subpathChars_eq_marked, trim_trim,
      ← subpathChars_eq_marked]
  have hread : ServerSettings.readSubpath content.toList = tidySubpath subpath := by
    rw [ServerSettings.readSubpath_eq, hfound, ← htrimmed]
    rfl
  rw [ServerSettings.baseUrl, hread]

/-- **When a subpath is tidied for good.** A tidied subpath is empty or starts with one
slash, and never ends in a slash. It ends in a blank exactly if the subpath hides one,
and exactly then it is changed by tidying it again. So it is these subpaths for which it
counts how often they are tidied: a base address with the tidied subpath is not the same
as one with the subpath itself, be it put together or read from the settings. -/
theorem tidySubpath_settles_iff {τ : Type} (subpath : String) :
    StartsWithOneSlash (tidySubpath subpath).toList ∧
    (tidySubpath subpath).toList.getLast? ≠ some '/' ∧
    ((∃ c ∈ (tidySubpath subpath).toList.getLast?, isBlank c = true) ↔
      HidesBlank subpath.toList) ∧
    (tidySubpath (tidySubpath subpath) = tidySubpath subpath ↔ ¬ HidesBlank subpath.toList) ∧
    (∀ ip port, ofParts ip port (tidySubpath subpath) = ofParts ip port subpath ↔
      ¬ HidesBlank subpath.toList) ∧
    ∀ content before settings, Setting.subpath.SetsFirst content.toList before subpath.toList →
      (ServerSettings.ofText content : Finding τ ServerSettings).outcome = .ok settings →
      (settings.baseUrl = ofParts settings.ip settings.port subpath ↔
        ¬ HidesBlank subpath.toList) := by
  rw [toList_tidySubpath]
  refine ⟨startsWithOneSlash_subpathChars _, getLast?_subpathChars _, exists_blank_getLast?_iff,
    tidySubpath_tidySubpath_iff, fun ip port => ?_, fun content before settings hfirst h => ?_⟩
  · rw [ofParts_eq_ofParts_iff, tidySubpath_tidySubpath_iff]
  · rw [baseUrl_of_setsFirst hfirst h, ofParts_eq_ofParts_iff, tidySubpath_tidySubpath_iff]

/-- A subpath in a text of settings that hides two blanks: even when it has been tidied
twice, the base address ends in a blank. -/
theorem tidySubpath_settles_iff_of_two_blanks :
    let content := "server.webUISubpath = \x22a / /\x22\n"
    let settings : ServerSettings := ⟨"127.0.0.1", 4567, "/a / "⟩
    (∃ before, Setting.subpath.SetsFirst content.toList before "a / /".toList) ∧
      (ServerSettings.ofText content : Finding Rat ServerSettings).outcome = .ok settings ∧
      HidesBlank "a / /".toList ∧ settings.baseUrl = "http://127.0.0.1:4567/a " ∧
      settings.baseUrl ≠ ofParts settings.ip settings.port "a / /" := by
  intro content settings
  have hassigned : Setting.subpath.assigned? content.toList = some "a / /".toList := by
    decide +kernel
  obtain ⟨before, hfirst⟩ := Setting.assigned?_eq_some_iff.mp hassigned
  have houtcome : (ServerSettings.ofText content : Finding Rat ServerSettings).outcome
      = .ok settings := by
    decide +kernel
  have hhides : HidesBlank "a / /".toList :=
    ⟨"a /".toList, ' ', [], by decide +kernel, rfl, by simp⟩
  refine ⟨⟨before, hfirst⟩, houtcome, hhides, by decide +kernel, fun hsame => ?_⟩
  obtain ⟨-, -, -, -, -, hsettings⟩ := tidySubpath_settles_iff (τ := Rat) "a / /"
  exact (hsettings content before settings hfirst houtcome).mp hsame hhides

/-- **Tidying does not always come to a normal form**, and it matters how often it is
done. -/
theorem not_forall_isNormal_of_tidySubpath :
    (¬ ∀ s, IsNormal (tidySubpath s).toList) ∧
      (¬ ∀ s, tidySubpath (tidySubpath s) = tidySubpath s) ∧
      ¬ ∀ ip port s, ofParts ip port (tidySubpath s) = ofParts ip port s := by
  have htidy : tidySubpath "a /" = "/a " := by decide +kernel
  refine ⟨fun h => ?_, fun h => ?_, fun h => ?_⟩
  · have hblank := (h "a /").blank ' '
    rw [htidy] at hblank
    cases hblank (by decide)
  · exact absurd (h "a /") (by decide +kernel)
  · exact absurd (h "127.0.0.1" 4567 "a /") (by decide +kernel)

end BaseUrl

end LocalServer
