import LocalServer.Proofs.Lookups
import LocalServer.Proofs.Sources
import LocalServer.Proofs.Subpath

/-!
# Which base addresses end in a slash

A base address is kept without a slash at its end, since every request goes to a path
below it. The sources bring it to that form in two ways. A subpath from the settings
loses all the slashes at its end, and there is a port before it; so no address that is
made of settings ends in one (`BaseUrl.getLast?_ofParts`). A URL of the user loses one
slash, and if another stands before it then the base address ends in that
(`BaseUrl.getLast?_ofUrl?_iff`).

What is written last of a URL need not be its path. If it has a fragment then that is
last, and otherwise a query if it has one; the slashes of either count as well as those
of a path.
-/

namespace LocalServer

open Text Url

/-! ## The last part of a URL -/

namespace Url

variable {u : Url} {ending front back : List Char}

/-- **What is written last** of an address: of path, query and fragment the last that is
not empty. -/
def lastPart (u : Url) : List Char :=
  if u.fragment ≠ [] then u.fragment else if u.query ≠ [] then u.query else u.path

/-- An ending that does not hold a mark stands behind it. -/
theorem suffix_append_cons_iff {mark : Char} (h : mark ∉ ending) :
    ending <:+ front ++ mark :: back ↔ ending <:+ back := by
  have hback : back <:+ front ++ mark :: back := ⟨front ++ [mark], by simp⟩
  constructor
  · intro hending
    by_contra hnot
    -- an ending that is longer than what stands behind the mark holds the mark
    have hlonger : mark :: back <:+ ending := by
      refine (List.suffix_or_suffix_of_suffix hending ⟨front, rfl⟩).resolve_left fun hshort => ?_
      obtain rfl | hshort := List.suffix_cons_iff.mp hshort
      · exact h List.mem_cons_self
      · exact hnot hshort
    exact h (hlonger.subset List.mem_cons_self)
  · exact fun hending => hending.trans hback

/-- **What an address ends with** is what its last part ends with. -/
theorem suffix_tailChars_iff (hquestion : '?' ∉ ending) (hhash : '#' ∉ ending) :
    ending <:+ u.tailChars ↔ ending <:+ u.lastPart := by
  unfold tailChars lastPart
  by_cases hfragment : u.fragment = []
  · rw [if_neg (not_not.mpr hfragment), hfragment, marked_nil, List.append_nil]
    by_cases hquery : u.query = []
    · rw [if_neg (not_not.mpr hquery), hquery, marked_nil, List.append_nil]
    · rw [if_pos hquery, marked_of_ne_nil hquery, suffix_append_cons_iff hquestion]
  · rw [if_pos hfragment, marked_of_ne_nil hfragment, suffix_append_cons_iff hhash]

end Url

namespace BaseUrl

/-! ## A URL of the user -/

variable {raw value : String}

/-- **A text ends in a slash without one** if it ends in two. -/
theorem getLast?_dropSlash_iff {cs : List Char} :
    (dropSlash cs).getLast? = some '/' ↔ ['/', '/'] <:+ cs := by
  unfold dropSlash
  by_cases hlast : cs.getLast? = some '/'
  · obtain ⟨front, rfl⟩ := List.getLast?_eq_some_iff.mp hlast
    rw [if_pos hlast, List.dropLast_concat, List.getLast?_eq_some_iff]
    constructor
    · rintro ⟨before, rfl⟩
      exact ⟨before, by simp⟩
    · rintro ⟨before, hbefore⟩
      have hsame : before ++ ['/'] ++ ['/'] = front ++ ['/'] := by
        rw [← hbefore, List.append_assoc]
        rfl
      exact ⟨before, (List.append_cancel_right hsame).symm⟩
  · rw [if_neg hlast]
    constructor
    · exact fun h => absurd h hlast
    · rintro ⟨before, rfl⟩
      exact absurd (by simp) hlast

/-- **The base address of a URL ends in a slash** exactly if the last part of the URL
ends in two. -/
theorem getLast?_ofUrl?_iff (h : ofUrl? raw = some value) :
    value.toList.getLast? = some '/' ↔
      ∃ u, split? raw.toList = some u ∧ ['/', '/'] <:+ u.lastPart := by
  obtain ⟨u, hu, -, -, hcut, -⟩ := of_ofUrl? h
  have hslash : (reachable u.authority).getLast? ≠ some '/' :=
    fun hc => absurd (hcut.authority '/' (List.mem_of_getLast? hc)) (by decide)
  have hne := reachable_ne_nil (isAdmissible_of_split? hu)
  -- the end of the authority is reached only if nothing is left behind it
  have hlast : value.toList.getLast? = some '/' ↔ (dropSlash u.tailChars).getLast? = some '/' := by
    have htext : value.toList = (u.scheme ++ [':', '/', '/'])
        ++ (reachable u.authority ++ dropSlash u.tailChars) := by
      rw [hcut.text]
      simp
    rw [htext, List.getLast?_append_of_ne_nil _ (List.append_ne_nil_of_left_ne_nil hne _),
      List.getLast?_append, Option.or_eq_some_iff]
    exact or_iff_left fun hc => hslash hc.2
  rw [hlast, getLast?_dropSlash_iff, suffix_tailChars_iff (by decide) (by decide), hu]
  constructor
  · exact fun hend => ⟨u, rfl, hend⟩
  · rintro ⟨u', hu', hend⟩
    cases hu'
    exact hend

/-! ## The settings of a server -/

/-- **An address that is made of settings does not end in a slash.** -/
theorem getLast?_ofParts (ip : String) (p : Nat) (subpath : String) :
    (ofParts ip p subpath).toList.getLast? ≠ some '/' := by
  intro hlast
  rw [toList_ofParts, List.getLast?_append, Option.or_eq_some_iff] at hlast
  rcases hlast with hlast | ⟨-, hlast⟩
  · exact getLast?_subpathChars _ hlast
  · -- without a subpath the last character is a digit of the port
    rw [List.getLast?_append_of_ne_nil _ (by simp), List.getLast?_append_of_ne_nil _ (by simp),
      List.getLast?_cons_of_ne_nil (toList_toString_ne_nil p)] at hlast
    exact absurd (isDigit_of_mem_toString (List.mem_of_getLast? hlast)) (by decide)

end BaseUrl

/-! ## Any source -/

namespace Address

variable {τ : Type} {commandLine : Option String} {env : Environment} {platform : Platform}
  {files : FileTree} {raw value : String}

/-- The text that names the base address names one. -/
theorem exists_ofUrl?_of_text? (h : text? commandLine env = some raw) :
    ∃ base, BaseUrl.ofUrl? raw = some base := by
  rw [← Option.isSome_iff_exists, BaseUrl.isSome_ofUrl?]
  unfold text? at h
  rcases Option.or_eq_some_iff.mp h with h | ⟨-, h⟩
  · exact (Option.filter_eq_some_iff.mp h).2
  · exact (Option.filter_eq_some_iff.mp h).2

/-- **Which base addresses end in a slash.** A base address does so exactly if a text of
the user names it whose last part, be it path, query or fragment, ends in two slashes.
One that comes from the settings, or from none, never does. -/
theorem getLast?_choose_iff
    (h : (choose commandLine env platform files : Finding τ String).outcome = .ok value) :
    value.toList.getLast? = some '/' ↔ ∃ raw u, text? commandLine env = some raw ∧
      split? raw.toList = some u ∧ ['/', '/'] <:+ u.lastPart := by
  cases htext : text? commandLine env with
  | some raw =>
    obtain ⟨base, hbase⟩ := exists_ofUrl?_of_text? htext
    rw [outcome_choose_of_text? htext hbase] at h
    cases h
    rw [BaseUrl.getLast?_ofUrl?_iff hbase]
    constructor
    · rintro ⟨u, hu, hend⟩
      exact ⟨raw, u, rfl, hu, hend⟩
    · rintro ⟨_, u, hraw, hu, hend⟩
      cases hraw
      exact ⟨u, hu, hend⟩
  | none =>
    rw [outcome_choose_of_none htext, fromSettings] at h
    obtain ⟨settings, -, hvalue⟩ := Finding.of_bind_ok h
    cases hvalue
    constructor
    · exact fun hlast => absurd hlast (BaseUrl.getLast?_ofParts _ _ _)
    · rintro ⟨_, _, hraw, -⟩
      cases hraw

/-- The last part is a query here, and the settings are not looked at. -/
theorem getLast?_choose_iff_of_query :
    let env : Environment := ⟨[("SUWAYOMI_BASE_URL", "http://0.0.0.0:4567/?next=//")], none⟩
    (choose none env .linux ⟨[], []⟩ : Finding Rat String).outcome
        = .ok "http://127.0.0.1:4567/?next=/" ∧
      text? none env = some "http://0.0.0.0:4567/?next=//" ∧
      "http://127.0.0.1:4567/?next=/".toList.getLast? = some '/' := by
  intro env
  have h : (choose none env .linux ⟨[], []⟩ : Finding Rat String).outcome
      = .ok "http://127.0.0.1:4567/?next=/" := by
    decide +kernel
  have htext : text? none env = some "http://0.0.0.0:4567/?next=//" := by decide +kernel
  refine ⟨h, htext, (getLast?_choose_iff h).mpr ⟨_, ⟨"http".toList, "0.0.0.0:4567".toList, ['/'],
    "next=//".toList, []⟩, htext, by decide +kernel, "next=".toList, rfl⟩⟩

/-- **A base address is not always without a slash at its end.** -/
theorem not_forall_getLast?_of_choose :
    ¬ ∀ (commandLine : Option String) (env : Environment) (platform : Platform)
      (files : FileTree) (value : String),
      (choose commandLine env platform files : Finding Rat String).outcome = .ok value →
        value.toList.getLast? ≠ some '/' := by
  intro h
  have hchoice : (choose (some "http://127.0.0.1:4567//") ⟨[], none⟩ .linux ⟨[], []⟩ :
      Finding Rat String).outcome = .ok "http://127.0.0.1:4567/" := by
    decide +kernel
  exact h _ _ _ _ _ hchoice (by decide +kernel)

end Address

end LocalServer
