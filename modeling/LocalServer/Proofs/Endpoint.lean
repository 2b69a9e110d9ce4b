import LocalServer.HealthCheck
import LocalServer.Proofs.Rereading

/-!
# What a health check asks for

The address of a health check is the text of the base address, less the slashes
at its end, with the text of the endpoint behind it. It is a text that is put
together, and what it asks for is known only when it is cut again. This module
says what that is.

The endpoint comes to stand behind the last part of the base address, whichever
that is: the path, if there is no query and no fragment, and otherwise one of
those (`HealthCheck.reach`). So the check asks the right server in any case, but
it asks for the endpoint only if the URL that the base address was made of has
neither a query nor a fragment; if it has one, the check asks for the path of
that URL, and whatever answers there passes for a server
(`HealthCheck.asksForEndpoint_iff`).
-/

namespace LocalServer

open Text Url

namespace HealthCheck

/-- **The endpoint behind a text**, which loses the slashes at its end. -/
def reach (cs : List Char) : List Char :=
  dropTrailing (· == '/') cs ++ endpoint.toList

theorem toList_url (value : String) : (url value).toList = reach value.toList := by
  rw [url, String.toList_append, String.toList_ofList, reach]

/-- The endpoint is made of characters that can be seen, and of no mark. -/
theorem isVisible_of_mem_endpoint {c : Char} (hc : c ∈ endpoint.toList) :
    IsVisible c ∧ c ≠ '?' ∧ c ≠ '#' := by
  have table : endpoint.toList.all
      (fun c => decide (IsVisible c) && c != '?' && c != '#') = true := by decide +kernel
  have := List.all_eq_true.mp table c hc
  simpa [and_assoc] using this

/-- The endpoint comes behind a mark, and brings in none. -/
theorem changesEnd_reach : ChangesEnd reach where
  behind {mark} hmark front back := by
    have hslash : (mark == '/') = false := by
      rcases hmark with rfl | rfl <;> rfl
    rw [reach, dropTrailing_append_cons_of_not (p := (· == '/')) hslash, reach, List.append_assoc,
      List.cons_append]
  noMark hmark _ hc := by
    rcases List.mem_append.mp hc with hc | hc
    · exact mem_of_mem_dropTrailing hc
    · obtain ⟨-, hquery, hfragment⟩ := isVisible_of_mem_endpoint hc
      rcases hmark with rfl | rfl
      · exact absurd rfl hquery
      · exact absurd rfl hfragment

/-- One slash less makes no difference to a text that loses all of them. -/
theorem reach_dropSlash (cs : List Char) : reach (BaseUrl.dropSlash cs) = reach cs := by
  unfold BaseUrl.dropSlash
  split
  · next h =>
    obtain ⟨front, rfl⟩ := List.getLast?_eq_some_iff.mp h
    rw [List.dropLast_concat, reach, reach, dropTrailing_concat rfl]
  · rfl

/-- The slashes at the end of an address stand behind its authority. -/
theorem reach_append {front authority : List Char} (hne : authority ≠ [])
    (ha : ∀ c ∈ authority, endsAuthority c = false) (tail : List Char) :
    reach (front ++ (authority ++ tail)) = front ++ (authority ++ reach tail) := by
  have hauthority : dropTrailing (· == '/') authority = authority :=
    dropTrailing_eq_self fun c hc => by
      have := ha c (List.mem_of_getLast? hc)
      simp only [endsAuthority, Bool.or_eq_false_iff] at this
      exact this.1.1
  have htail : dropTrailing (· == '/') (authority ++ tail)
      = authority ++ dropTrailing (· == '/') tail := by
    rw [dropTrailing_append]
    split
    · next h => rw [hauthority, h, List.append_nil]
    · rfl
  have hnonempty : ¬ authority ++ dropTrailing (· == '/') tail = [] := fun h =>
    hne (List.append_eq_nil_iff.mp h).1
  simp only [reach, dropTrailing_append _ front, htail, if_neg hnonempty, List.append_assoc]

variable {cs scheme tail : List Char} {u v : Url}

/-- **The address of a health check is cut** where the base address was, and the
endpoint stands behind what follows the authority. -/
theorem isCut_reach (h : IsCut cs scheme tail v) (hne : v.authority ≠ []) (hparts : u.HasParts)
    (htail : reach tail = reach u.tailChars) :
    IsCut (reach cs) scheme (reach tail) { changeLast reach u with
      scheme := v.scheme, authority := v.authority } := by
  refine ⟨?_, h.isScheme, h.lower, h.authority, ?_, ?_⟩
  · have hreach : reach ((scheme ++ [':', '/', '/']) ++ (v.authority ++ tail))
        = (scheme ++ [':', '/', '/']) ++ (v.authority ++ reach tail) :=
      reach_append hne h.authority tail
    simpa only [h.text, List.append_assoc, List.cons_append, List.nil_append] using hreach
  · intro c hc
    rw [reach] at hc
    cases hkept : dropTrailing (· == '/') tail with
    | nil =>
      rw [hkept] at hc
      cases hc
      rfl
    | cons d ds =>
      obtain ⟨rest, hrest⟩ := dropTrailing_prefix (· == '/') tail
      rw [hkept] at hc hrest
      cases hc
      exact h.boundary _ (by rw [← hrest]; rfl)
  · rw [htail]
    exact splitTail_changed changesEnd_reach hparts

/-- **A health check asks for the endpoint** of the server at a base address: the
path is that of the base address without the slashes at its end, and then that
of the endpoint, and there is neither query nor fragment. -/
structure AsksForEndpoint (v p : Url) : Prop where
  path : p.path = dropTrailing (· == '/') v.path ++ endpoint.toList
  query : p.query = []
  fragment : p.fragment = []

/-- The endpoint is not empty. -/
theorem reach_ne_nil (cs : List Char) : reach cs ≠ [] := by
  have hne : endpoint.toList ≠ [] := by decide +kernel
  exact fun h => hne (List.append_eq_nil_iff.mp h).2

/-- **The endpoint is the path** if nothing else stands behind it. -/
theorem asksForEndpoint_changeLast_iff (hpath : u.fragment = [] → u.query = [] →
    reach v.path = reach u.path) {p : Url} (hp : p.path = (changeLast reach u).path ∧
      p.query = (changeLast reach u).query ∧ p.fragment = (changeLast reach u).fragment) :
    AsksForEndpoint v p ↔ u.query = [] ∧ u.fragment = [] := by
  obtain ⟨hp₁, hp₂, hp₃⟩ := hp
  unfold changeLast at hp₁ hp₂ hp₃
  split at hp₁
  · next hfragment =>
    rw [if_pos hfragment] at hp₃
    exact iff_of_false (fun h => reach_ne_nil _ (hp₃.symm.trans h.fragment))
      fun h => hfragment h.2
  · next hfragment =>
    rw [if_neg hfragment] at hp₂ hp₃
    rw [not_not] at hfragment
    split at hp₁
    · next hquery =>
      rw [if_pos hquery] at hp₂
      exact iff_of_false (fun h => reach_ne_nil _ (hp₂.symm.trans h.query)) fun h => hquery h.1
    · next hquery =>
      rw [if_neg hquery] at hp₂ hp₃
      rw [not_not] at hquery
      refine iff_of_true ⟨?_, hp₂.trans hquery, hp₃.trans hfragment⟩ ⟨hquery, hfragment⟩
      exact hp₁.trans (hpath hfragment hquery).symm

/-- **What a health check asks for.** A URL without blanks that has a base address
is cut into an address, and so are its base address and the address of the
health check there. Scheme and authority of the last two are the same. The
endpoint stands behind the last part of the URL, so the check asks for the
endpoint if the URL has neither a query nor a fragment, and in no other case. -/
theorem asksForEndpoint_iff {raw value : String} (hblank : ∀ c ∈ raw.toList, isBlank c = false)
    (h : BaseUrl.ofUrl? raw = some value) :
    ∃ u v p, split? raw.toList = some u ∧ split? value.toList = some v ∧
      split? (url value).toList = some p ∧ p.scheme = v.scheme ∧ p.authority = v.authority ∧
      p.path = (changeLast reach u).path ∧ p.query = (changeLast reach u).query ∧
      p.fragment = (changeLast reach u).fragment ∧
      (AsksForEndpoint v p ↔ u.query = [] ∧ u.fragment = []) := by
  obtain ⟨u, hu, hparts, -, hcut, hchars⟩ := BaseUrl.of_ofUrl? h
  have hreached := (BaseUrl.reaches_reachable (isAdmissible_of_split? hu)).admissible
  have hvalue : ∀ c ∈ value.toList, isBlank c = false := fun c hc =>
    (hchars c hc).elim (fun hc => hblank c hc.1) IsVisible.isBlank
  have hurl : ∀ c ∈ reach value.toList, isBlank c = false := fun c hc =>
    (List.mem_append.mp hc).elim (fun hc => hvalue c (mem_of_mem_dropTrailing hc))
      fun hc => (isVisible_of_mem_endpoint hc).1.isBlank
  have hne : BaseUrl.reachable u.authority ≠ [] := fun he => by
    have hhost := (isAdmissible_iff.mp hreached).2.2.1
    rw [he] at hhost
    exact hhost rfl
  have hasked := isCut_reach hcut hne hparts (reach_dropSlash _)
  refine ⟨u, { BaseUrl.withoutSlash u with authority := BaseUrl.reachable u.authority },
    { changeLast reach u with
      scheme := (BaseUrl.withoutSlash u).scheme, authority := BaseUrl.reachable u.authority },
    hu, hcut.split?_eq hvalue hreached, ?_, rfl, rfl, rfl, rfl, rfl, ?_⟩
  · rw [toList_url]
    exact hasked.split?_eq hurl hreached
  · refine asksForEndpoint_changeLast_iff (fun hfragment hquery => ?_) ⟨rfl, rfl, rfl⟩
    show reach (BaseUrl.withoutSlash u).path = _
    rw [BaseUrl.withoutSlash, if_neg (not_not.mpr hfragment), if_neg (not_not.mpr hquery)]
    exact reach_dropSlash u.path

/-- A URL with slashes at its end: the endpoint is asked for below its path. -/
theorem asksForEndpoint_iff_of_subpath :
    (∀ c ∈ "HTTP://0.0.0.0:80/sub//".toList, isBlank c = false) ∧
      BaseUrl.ofUrl? "HTTP://0.0.0.0:80/sub//" = some "http://127.0.0.1:80/sub/" ∧
      ∃ v p, split? "http://127.0.0.1:80/sub/".toList = some v ∧
        split? (url "http://127.0.0.1:80/sub/").toList = some p ∧ AsksForEndpoint v p := by
  have hblank : ∀ c ∈ "HTTP://0.0.0.0:80/sub//".toList, isBlank c = false := by
    have table : "HTTP://0.0.0.0:80/sub//".toList.all (fun c => !isBlank c) = true := by
      decide +kernel
    simpa only [List.all_eq_true, Bool.not_eq_true'] using table
  have hvalue : BaseUrl.ofUrl? "HTTP://0.0.0.0:80/sub//" = some "http://127.0.0.1:80/sub/" := by
    decide +kernel
  have hraw : split? "HTTP://0.0.0.0:80/sub//".toList
      = some ⟨"http".toList, "0.0.0.0:80".toList, "/sub//".toList, [], []⟩ := by decide +kernel
  obtain ⟨u, v, p, hu, hv, hp, -, -, -, -, -, hiff⟩ := asksForEndpoint_iff hblank hvalue
  cases hraw.symm.trans hu
  exact ⟨hblank, hvalue, v, p, hv, hp, hiff.mpr ⟨rfl, rfl⟩⟩

/-- **Not every health check asks for the endpoint**: with a query, the check asks
for the path before it. -/
theorem not_forall_asksForEndpoint_of_ofUrl? :
    ¬ ∀ raw value : String, (∀ c ∈ raw.toList, isBlank c = false) →
      BaseUrl.ofUrl? raw = some value →
      ∃ v p, split? value.toList = some v ∧ split? (url value).toList = some p ∧
        p.scheme = v.scheme ∧ p.authority = v.authority ∧ AsksForEndpoint v p := by
  intro h
  have hblank : ∀ c ∈ "http://127.0.0.1:4567/?theme=dark".toList, isBlank c = false := by
    have table : "http://127.0.0.1:4567/?theme=dark".toList.all (fun c => !isBlank c) = true := by
      decide +kernel
    simpa only [List.all_eq_true, Bool.not_eq_true'] using table
  have hvalue : BaseUrl.ofUrl? "http://127.0.0.1:4567/?theme=dark"
      = some "http://127.0.0.1:4567/?theme=dark" := by decide +kernel
  have hurl : split? (url "http://127.0.0.1:4567/?theme=dark").toList
      = some ⟨"http".toList, "127.0.0.1:4567".toList, ['/'],
        "theme=dark/api/v1/settings/about/".toList, []⟩ := by decide +kernel
  obtain ⟨v, p, -, hp, -, -, hasks⟩ := h _ _ hblank hvalue
  cases hurl.symm.trans hp
  have hquery := hasks.query
  cases hquery

end HealthCheck

end LocalServer
