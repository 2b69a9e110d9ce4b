import LocalServer.Proofs.Course
import LocalServer.Proofs.Lookups
import LocalServer.Proofs.Rereading
import LocalServer.Proofs.Sources

/-!
# Whether the base address of a URL is of use

A base address that is made of a text of the user is read once more, by the
attempt that is to use it, and it should not be refused then. It is refused in
one case. A URL may end with its authority, but for a slash or for marks with
nothing behind them, and these are not written again; so blanks at the end of
the authority, which stood within the URL, come to stand at the end of the base
address, and are taken away when it is read. An address **fades** if its
authority names no server without them (`Url.Fades`): `http:// /` has the host
` `, and its base address has none.

The main statement is that no other base address of a URL is refused, and that
an attempt which takes its base address from a text of the user is given up for
it in this case and in no other (`Attempt.refused_iff_fades`).
-/

namespace LocalServer

open Text Act World

/-! ## What is left without the blanks at the end -/

namespace Url

variable {cs scheme tail : List Char} {u : Url}

/-- A character that ends an authority is not blank. -/
theorem isBlank_of_endsAuthority {c : Char} (h : endsAuthority c = true) : isBlank c = false := by
  simp only [endsAuthority, Bool.or_eq_true, beq_iff_eq] at h
  rcases h with (rfl | rfl) | rfl <;> rfl

/-- **A text is cut without the blanks at its end.** They are those of the
authority if nothing stands behind it. -/
theorem IsCut.exists_dropTrailing (h : IsCut cs scheme tail u) :
    ∃ v : Url, components? (dropTrailing isBlank cs) = some v ∧
      v.authority = if tail = [] then dropTrailing isBlank u.authority else u.authority := by
  have hfront : dropTrailing isBlank cs
      = scheme ++ ':' :: '/' :: '/' :: dropTrailing isBlank (u.authority ++ tail) := by
    have := dropTrailing_append_cons_of_not (p := isBlank) (c := '/') rfl (scheme ++ [':', '/'])
      (u.authority ++ tail)
    simpa [h.text] using this
  split
  · next htail =>
    refine ⟨⟨u.scheme, dropTrailing isBlank u.authority, [], [], []⟩, ?_, rfl⟩
    refine components?_eq_some_iff.mpr ⟨scheme, [], ?_, h.isScheme, h.lower, ?_, ?_, rfl⟩
    · rw [hfront, htail, List.append_nil, List.append_nil]
    · exact fun c hc => h.authority c (mem_of_mem_dropTrailing hc)
    · rintro c ⟨⟩
  · next htail =>
    obtain ⟨c, rest, rfl⟩ := List.exists_cons_of_ne_nil htail
    have hc := h.boundary c rfl
    refine ⟨⟨u.scheme, u.authority, (splitTail (c :: dropTrailing isBlank rest)).1,
      (splitTail (c :: dropTrailing isBlank rest)).2.1,
      (splitTail (c :: dropTrailing isBlank rest)).2.2⟩, ?_, rfl⟩
    refine components?_eq_some_iff.mpr ⟨scheme, c :: dropTrailing isBlank rest, ?_, h.isScheme,
      h.lower, h.authority, ?_, rfl⟩
    · rw [hfront, dropTrailing_append_cons_of_not (isBlank_of_endsAuthority hc)]
    · rintro d ⟨⟩
      exact hc

/-- **An address that fades**: nothing but perhaps a slash stands behind its
authority, and the authority names no server without the blanks at its end. -/
structure Fades (u : Url) : Prop where
  path : u.path = [] ∨ u.path = ['/']
  query : u.query = []
  fragment : u.fragment = []
  authority : isAdmissible (dropTrailing isBlank u.authority) = false

instance : DecidablePred Fades := fun u =>
  decidable_of_iff ((u.path = [] ∨ u.path = ['/']) ∧ u.query = [] ∧ u.fragment = [] ∧
    isAdmissible (dropTrailing isBlank u.authority) = false)
    ⟨fun ⟨h₁, h₂, h₃, h₄⟩ => ⟨h₁, h₂, h₃, h₄⟩, fun ⟨h₁, h₂, h₃, h₄⟩ => ⟨h₁, h₂, h₃, h₄⟩⟩

end Url

namespace BaseUrl

open Url

theorem dropSlash_eq_nil_iff {cs : List Char} : dropSlash cs = [] ↔ cs = [] ∨ cs = ['/'] := by
  unfold dropSlash
  split
  · next h =>
    obtain ⟨front, rfl⟩ := List.getLast?_eq_some_iff.mp h
    simp
  · next h =>
    constructor
    · exact Or.inl
    · rintro (rfl | rfl)
      · rfl
      · exact absurd rfl h

/-- **Nothing is written behind the authority** if nothing but a slash stands
there. -/
theorem dropSlash_tailChars_eq_nil_iff {u : Url} :
    dropSlash u.tailChars = [] ↔
      (u.path = [] ∨ u.path = ['/']) ∧ u.query = [] ∧ u.fragment = [] := by
  rw [dropSlash_eq_nil_iff, tailChars]
  constructor
  · rintro (h | h)
    · simp only [List.append_eq_nil_iff, marked_eq_nil_iff] at h
      exact ⟨Or.inl h.1.1, h.1.2, h.2⟩
    · cases hpath : u.path with
      | nil =>
        -- then the text starts with a mark
        rw [hpath] at h
        cases hquery : u.query with
        | cons c cs => simp [hquery] at h
        | nil =>
          cases hfragment : u.fragment with
          | cons c cs => simp [hquery, hfragment] at h
          | nil => exact ⟨Or.inl rfl, rfl, rfl⟩
      | cons c cs =>
        rw [hpath] at h
        simp only [List.cons_append, List.cons.injEq, List.append_eq_nil_iff, marked_eq_nil_iff] at h
        obtain ⟨rfl, ⟨rfl, hquery⟩, hfragment⟩ := h
        exact ⟨Or.inr rfl, hquery, hfragment⟩
  · rintro ⟨hpath, hquery, hfragment⟩
    rw [hquery, hfragment]
    simpa using hpath

variable {authority : List Char}

/-- An authority does not end in a blank if no blank follows the user. -/
theorem dropTrailing_of_hostPart (h : ∀ c ∈ hostPart authority, isBlank c = false) :
    dropTrailing isBlank authority = authority := by
  have hpart : dropTrailing isBlank (hostPart authority) = hostPart authority :=
    dropTrailing_eq_self fun c hc => h c (List.mem_of_getLast? hc)
  rw [← withUser_user? authority]
  cases user? authority with
  | none => exact hpart
  | some user => rw [withUser, dropTrailing_append_cons_of_not rfl, hpart]

/-- The text of a port is digits. -/
theorem isDigit_of_readPort? {text : List Char} {p : Option Nat} (h : readPort? text = some p) :
    ∀ c ∈ text, c.isDigit = true := by
  unfold readPort? at h
  split at h
  · next hempty =>
    rw [List.isEmpty_iff.mp hempty]
    exact fun _ hc => absurd hc List.not_mem_nil
  · split at h
    · next hport =>
      simp only [Bool.and_eq_true] at hport
      exact List.all_eq_true.mp hport.1.1
    · cases h

/-- No blank follows the user if the host stands for all addresses. -/
theorem not_isBlank_of_host (ha : isAdmissible authority = true)
    (h : host authority = anyHost.toList) : ∀ c ∈ hostPart authority, isBlank c = false := by
  obtain ⟨-, -, -, p, hp⟩ := isAdmissible_iff.mp ha
  have hbracket : '[' ∉ hostPart authority := by
    intro hc
    refine (notMem_bracket_of_host ha h).1 ?_
    rw [← withUser_user? authority]
    cases user? authority with
    | none => exact hc
    | some user => exact List.mem_append_right _ (List.mem_cons_of_mem _ hc)
  have hcut : hostAndPort authority = cutAt ':' (hostPart authority) := if_neg hbracket
  have hhost : ∀ c ∈ (cutAt ':' (hostPart authority)).1, isBlank c = false := by
    have table : anyHost.toList.all (fun c => !isBlank c) = true := rfl
    rw [← hcut, show (hostAndPort authority).1 = _ from h]
    simpa using table
  have hport : ∀ c ∈ (cutAt ':' (hostPart authority)).2, isBlank c = false := by
    rw [← hcut]
    exact fun c hc => (isVisible_of_isDigit (isDigit_of_readPort? hp c hc)).isBlank
  intro c hc
  by_cases hcolon : ':' ∈ hostPart authority
  · rw [← append_cutAt hcolon, List.mem_append, List.mem_cons] at hc
    rcases hc with hc | rfl | hc
    · exact hhost c hc
    · rfl
    · exact hport c hc
  · rw [cutAt_of_notMem hcolon] at hhost
    exact hhost c hc

/-- **The blanks at the end** matter to the authority to connect to as they do to
the one that was given. -/
theorem isAdmissible_dropTrailing_reachable (ha : isAdmissible authority = true) :
    isAdmissible (dropTrailing isBlank (reachable authority))
      = isAdmissible (dropTrailing isBlank authority) := by
  by_cases h : host authority = anyHost.toList
  · have hat : '@' ∉ loopback.toList ++ marked ':' (portDigits (port? authority)) :=
      fun hc => absurd (mem_loopback_port hc) (by decide)
    have hreachable : dropTrailing isBlank (reachable authority) = reachable authority := by
      refine dropTrailing_of_hostPart fun c hc => ?_
      rw [reachable_of_host h, hostPart_withUser _ hat] at hc
      rcases mem_loopback_port hc with hc | rfl | rfl
      · exact (isVisible_of_isDigit hc).isBlank
      · rfl
      · rfl
    rw [hreachable, dropTrailing_of_hostPart (not_isBlank_of_host ha h), ha]
    exact (reaches_reachable ha).admissible
  · rw [reachable, if_neg h]

/-- **A base address is of no use if its URL fades**, and only then. -/
theorem isUsable_eq_false_iff {raw value : String} (h : ofUrl? raw = some value) :
    ∃ u, split? raw.toList = some u ∧ (isUsable value = false ↔ u.Fades) := by
  obtain ⟨u, hu, -, -, hcut, hchars⟩ := of_ofUrl? h
  have ha := isAdmissible_of_split? hu
  have hclean := hcut.clean_eq fun c hc => by
    rcases hchars c hc with hc | hc
    · exact hc.2
    · exact isDeleted_of_not_isBlank hc.isBlank
  obtain ⟨v, hv, hauthority⟩ := hcut.exists_dropTrailing
  have husable : isUsable value = isAdmissible v.authority := by
    rw [isUsable, split?, hclean, hv, Option.filter_some]
    cases isAdmissible v.authority <;> rfl
  refine ⟨u, hu, ?_⟩
  rw [husable, hauthority]
  split
  · next htail =>
    obtain ⟨hpath, hquery, hfragment⟩ := dropSlash_tailChars_eq_nil_iff.mp htail
    rw [isAdmissible_dropTrailing_reachable ha]
    exact ⟨fun h => ⟨hpath, hquery, hfragment, h⟩, fun h => h.authority⟩
  · next htail =>
    rw [(reaches_reachable ha).admissible]
    exact iff_of_false (by rintro ⟨⟩) fun h =>
      htail (dropSlash_tailChars_eq_nil_iff.mpr ⟨h.path, h.query, h.fragment⟩)

/-- **Not every base address of a URL is of use**: that of `http:// /` has lost
the slash that stood behind its host. -/
theorem not_forall_isUsable_of_ofUrl? :
    ¬ ∀ raw value : String, ofUrl? raw = some value → isUsable value = true := by
  intro h
  have hvalue : ofUrl? "http:// /" = some "http:// " := by decide +kernel
  have hunusable : isUsable "http:// " = false := by decide +kernel
  cases hunusable.symm.trans (h _ _ hvalue)

end BaseUrl

/-! ## Attempts that are given up for it -/

/-- **A fault that may come from outside**: as an answer, by an interruption or as
the refusal of a start. -/
def World.Raises {τ : Type} (w : World τ) (e : Fault τ) : Prop :=
  w.Breaks e ∨ w.Interrupts e ∨ w.Refuses e

namespace Attempt

variable {τ : Type} [Seconds τ] {a : Attempt τ} {w : World τ} {baseUrl b : String}
  {start now : τ} {resources : Option Path} {plan : LaunchPlan} {seen : List (τ × Event τ)}
  {phase : Phase}

/-- A server that was started is not given up on for its base address. -/
theorem Adopting.ne_unusable (hw : ¬ w.Raises (.launch (.unusable b)))
    {ending : Ending τ Unit} (h : Adopting a w baseUrl start ending now seen) :
    ending ≠ .raised (.launch (.unusable b)) := by
  rintro rfl
  cases h with
  | disturbed wait =>
    cases wait with
    | broken _ _ _ outside => exact hw (Or.inl outside)
    | interrupted _ _ _ outside => exact hw (Or.inr (Or.inl outside))

/-- A start is not refused for its base address. -/
theorem Starting.ne_unusable (hw : ¬ w.Raises (.launch (.unusable b)))
    {ending : Ending τ Ready} (h : Starting a w plan start ending phase seen) :
    ending ≠ .raised (.launch (.unusable b)) := by
  cases h with
  | @refused e outside =>
    intro he
    rw [Ending.raised.injEq] at he
    unfold Keeper.startError at he
    split at he
    · split at he <;> cases he
    · exact hw (Or.inr (Or.inr (he ▸ outside)))
  | adopted k pid adopting => rintro ⟨⟩
  | givenUp k pid pid' later adopting =>
    rintro ⟨⟩
    exact adopting.ne_unusable hw rfl

/-- **From the search on**, nothing is given up for its base address. -/
theorem Searching.ne_unusable (hw : ¬ w.Raises (.launch (.unusable b)))
    {ending : Ending τ Ready} (h : Searching a w baseUrl resources now ending phase seen) :
    ending ≠ .raised (.launch (.unusable b)) := by
  cases h with
  | failed found =>
    rintro ⟨⟩
    cases (Discovery.looksUp_plan _ _ _ _ _ _).failure _ found
  | broken later found broken outside =>
    rintro ⟨⟩
    exact hw (Or.inl outside)
  | cameUp later found => rintro ⟨⟩
  | launched found unhealthy starting => exact starting.ne_unusable hw

/-- An attempt whose base address is of no use is given up, -/
theorem Course.of_unusable {ending : Ending τ Ready}
    (h : Course a w resources ending phase seen) (haddress : (a.address w).outcome = .ok b)
    (hunusable : BaseUrl.isUsable b = false) : ending = .raised (.launch (.unusable b)) := by
  have husable : ∀ {b' : String}, (a.address w).outcome = .ok b' →
      BaseUrl.isUsable b' = true → False := by
    intro b' hb' husable
    cases hb'.symm.trans haddress
    cases husable.symm.trans hunusable
  cases h with
  | unaddressed address => cases address.symm.trans haddress
  | unusable address =>
    cases address.symm.trans haddress
    rfl
  | broken later address usable => exact (husable address usable).elim
  | running later address usable => exact (husable address usable).elim
  | searched address usable => exact (husable address usable).elim

/-- and it ends at once. -/
theorem ends_makeReady_of_unusable (haddress : (a.address w).outcome = .ok b)
    (h : BaseUrl.isUsable b = false) : (a.makeReady resources).Ends w := by
  refine ends_bind.mpr ⟨ends_change _, yields_change.mpr ?_⟩
  refine ends_bind.mpr ⟨(ends_look _).bind fun x _ => ends_consult x, ?_⟩
  refine yields_bind.mpr ((yields_look _).mpr ((yields_consult (a.address w)).mpr ?_))
  rw [haddress]
  dsimp only
  rw [h, if_neg Bool.false_ne_true]
  exact (ends_enter _).bind fun _ _ => ends_raise _

/-- **An attempt is given up for its base address** if and only if that is of no
use. -/
theorem Course.unusable_iff (hw : ¬ w.Raises (.launch (.unusable b)))
    {ending : Ending τ Ready} (h : Course a w resources ending phase seen) :
    ending = .raised (.launch (.unusable b)) ↔
      (a.address w).outcome = .ok b ∧ BaseUrl.isUsable b = false := by
  refine ⟨?_, fun ⟨haddress, hunusable⟩ => h.of_unusable haddress hunusable⟩
  cases h with
  | unaddressed address =>
    rintro ⟨⟩
    exact absurd rfl (((Address.looksUp_choose _ _ _ _).failure _ address).ne_launch _)
  | unusable address unusable =>
    rintro ⟨⟩
    exact ⟨address, unusable⟩
  | broken later address usable broken outside =>
    rintro ⟨⟩
    exact absurd (Or.inl outside) hw
  | running later address usable => rintro ⟨⟩
  | searched address usable unhealthy searching =>
    exact fun he => absurd he (searching.ne_unusable hw)

/-- **When a URL of the user is refused.** A text of the user that has a base
address is a URL, and its base address is of use unless the URL fades. An
attempt that takes its base address from that text is given up for it at once
if the URL fades; otherwise, however the attempt ends, it is not given up for
a base address, unless such a fault comes from outside. -/
theorem refused_iff_fades {raw value : String} (h : BaseUrl.ofUrl? raw = some value) :
    ∃ u, Url.split? raw.toList = some u ∧ (BaseUrl.isUsable value = false ↔ u.Fades) ∧
      ∀ (a : Attempt τ) (resources : Option Path) (w : World τ),
        Address.text? a.commandLineUrl w.environment = some raw →
        (u.Fades → ∃ w', (a.makeReady resources).run w
          = some (.raised (.launch (.unusable value)), w')) ∧
        ∀ b, ¬ w.Raises (.launch (.unusable b)) →
          ∀ ending w', (a.makeReady resources).run w = some (ending, w') →
            (ending = .raised (.launch (.unusable b)) ↔ u.Fades ∧ b = value) := by
  obtain ⟨u, hu, hfades⟩ := BaseUrl.isUsable_eq_false_iff h
  refine ⟨u, hu, hfades, fun a resources w htext => ⟨fun hu => ?_, fun b hb ending w' hrun => ?_⟩⟩
  all_goals have haddress : (a.address w).outcome = .ok value :=
    Address.outcome_choose_of_text? htext h
  · have hunusable := hfades.mpr hu
    have hends : (a.makeReady resources).Ends w := ends_makeReady_of_unusable haddress hunusable
    obtain ⟨ending, w', hrun⟩ := hends.exists_run
    obtain ⟨seen, -, hcourse⟩ := exists_course_of_run hrun
    obtain rfl := hcourse.of_unusable haddress hunusable
    exact ⟨w', hrun⟩
  · obtain ⟨seen, -, hcourse⟩ := exists_course_of_run hrun
    rw [hcourse.unusable_iff hb, haddress, ← hfades, Except.ok.injEq]
    constructor
    · rintro ⟨rfl, hunusable⟩
      exact ⟨hunusable, rfl⟩
    · rintro ⟨hunusable, rfl⟩
      exact ⟨rfl, hunusable⟩

/-- The URL `http:// /` on the command line fades, and the attempt is given up. -/
theorem refused_iff_fades_of_blank_host :
    let a : Attempt Rat := .usual .linux (some "http:// /")
    let w : World Rat := .still 0 (FileTree.empty []) ⟨[], none⟩
    BaseUrl.ofUrl? "http:// /" = some "http:// " ∧
      Address.text? a.commandLineUrl w.environment = some "http:// /" ∧
      ¬ w.Raises (.launch (.unusable "http:// ")) ∧
      ∃ u w', Url.split? "http:// /".toList = some u ∧ u.Fades ∧
        (a.makeReady none).run w = some (.raised (.launch (.unusable "http:// ")), w') := by
  intro a w
  have hvalue : BaseUrl.ofUrl? "http:// /" = some "http:// " := by decide +kernel
  have htext : Address.text? a.commandLineUrl w.environment = some "http:// /" := by
    decide +kernel
  have hquiet : ¬ w.Raises (.launch (.unusable "http:// ")) := by
    rintro (⟨p, hp, -⟩ | ⟨n, hn⟩ | ⟨script, hscript, -⟩)
    · cases hp
    · cases hn
    · cases hscript
  obtain ⟨u, hu, hfades, hattempt⟩ := refused_iff_fades (τ := Rat) hvalue
  have hunusable : BaseUrl.isUsable "http:// " = false := by decide +kernel
  obtain ⟨hrefused, hwhen⟩ := hattempt a none w htext
  obtain ⟨w', hrun⟩ := hrefused (hfades.mp hunusable)
  have hu' : u.Fades := ((hwhen _ hquiet _ _ hrun).mp rfl).1
  exact ⟨hvalue, htext, hquiet, u, w', hu, hu', hrun⟩

end Attempt

end LocalServer
