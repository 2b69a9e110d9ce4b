import LocalServer.BaseUrl
import Mathlib

/-!
# Addresses that are written are read again

A text that names an address is cut into its components; the address is
changed so that its server can be reached, and written out without a slash
at its end. What is written is a text again, and this module says what it
names.

The cut is where all of it hangs. `Url.IsCut` says what a text has to look
like to be cut into an address, and `Url.components?_eq_some_iff` that the
reader knows no other texts. It says nothing of the marks before an empty
query or fragment – they are part of what follows the authority, and may be
there or not – and this is what lets a slash be dropped wherever it stands:
if it was all of the query, its mark is left over, and the text is still cut
as before, but for the slash (`BaseUrl.splitTail_dropSlash`).
-/

namespace LocalServer

open Text

/-! ## What a text is cut into -/

namespace Url

/-- **A component is written** with the mark before it. Of an empty one the
mark may be missing too. -/
def IsMarked (mark : Char) (component text : List Char) : Prop :=
  text = mark :: component ∨ (component = [] ∧ text = [])

theorem isMarked_marked (mark : Char) (component : List Char) :
    IsMarked mark component (marked mark component) := by
  cases component with
  | nil => exact Or.inr ⟨rfl, rfl⟩
  | cons c cs => exact Or.inl rfl

theorem marked_of_ne_nil {mark : Char} {component : List Char} (h : component ≠ []) :
    marked mark component = mark :: component := by
  cases component with
  | nil => exact absurd rfl h
  | cons c cs => rfl

theorem marked_eq_nil_iff {mark : Char} {component : List Char} :
    marked mark component = [] ↔ component = [] := by
  cases component <;> simp

/-- A cut at a mark gives the component, whether the mark is there or not. -/
theorem cutAt_of_isMarked {mark : Char} {front component text : List Char}
    (h : IsMarked mark component text) (hfront : mark ∉ front) :
    cutAt mark (front ++ text) = (front, component) := by
  rcases h with rfl | ⟨rfl, rfl⟩
  · exact cutAt_append_cons hfront component
  · rw [List.append_nil, cutAt_of_notMem hfront]

/-- **A text is cut into an address**: a scheme as it was written, `:` and two
slashes, the authority up to the first character that ends it, and what
follows. -/
structure IsCut (cs scheme tail : List Char) (u : Url) : Prop where
  text : cs = scheme ++ ':' :: '/' :: '/' :: (u.authority ++ tail)
  isScheme : isScheme scheme = true
  lower : u.scheme = scheme.map Char.toLower
  authority : ∀ c ∈ u.authority, endsAuthority c = false
  boundary : ∀ c ∈ tail.head?, endsAuthority c = true
  parts : splitTail tail = (u.path, u.query, u.fragment)

/-- All characters of a scheme are characters of one. -/
theorem isSchemeChar_of_mem {scheme : List Char} (h : isScheme scheme = true) {c : Char}
    (hc : c ∈ scheme) : isSchemeChar c = true := by
  cases scheme with
  | nil => cases hc
  | cons d ds =>
    simp only [Url.isScheme, Bool.and_eq_true, List.all_eq_true] at h
    rcases List.mem_cons.mp hc with rfl | hc
    · simp [isSchemeChar, Char.isAlphanum, h.1]
    · exact h.2 c hc

theorem colon_notMem_of_isScheme {scheme : List Char} (h : isScheme scheme = true) :
    ':' ∉ scheme := by
  intro hc
  exact absurd (isSchemeChar_of_mem h hc) (by decide)

/-- **What the reader cuts.** -/
theorem components?_eq_some_iff {cs : List Char} {u : Url} :
    components? cs = some u ↔ ∃ scheme tail, IsCut cs scheme tail u := by
  constructor
  · intro h
    unfold components? at h
    dsimp only at h
    split at h
    · next rest hrest =>
      split at h
      · next hscheme =>
        simp only [Bool.and_eq_true, decide_eq_true_eq] at hscheme
        cases h
        refine ⟨_, rest.dropWhile fun c => !endsAuthority c, ?_, hscheme.1, rfl, ?_, ?_, rfl⟩
        · rw [List.takeWhile_append_dropWhile, ← hrest, append_cutAt hscheme.2]
        · intro c hc
          simpa using List.mem_takeWhile_imp hc
        · intro c hc
          rw [Option.mem_def] at hc
          simpa [hc] using List.head?_dropWhile_not (fun c => !endsAuthority c) rest
      · cases h
    · cases h
  · rintro ⟨scheme, tail, h⟩
    have hcut := cutAt_append_cons (colon_notMem_of_isScheme h.isScheme)
      ('/' :: '/' :: (u.authority ++ tail))
    have inside : ∀ c ∈ u.authority, (!endsAuthority c) = true := by
      intro c hc
      rw [h.authority c hc, Bool.not_false]
    have outside : ∀ c ∈ tail.head?, (!endsAuthority c) = false := by
      intro c hc
      rw [h.boundary c hc, Bool.not_true]
    have hcolon : ':' ∈ cs := by
      rw [h.text]
      simp
    simp only [components?, ← h.text] at hcut ⊢
    simp only [hcut, takeWhile_run inside outside, dropWhile_run inside outside, h.parts,
      ← h.lower, h.isScheme, hcolon, decide_true, Bool.and_self, if_true]

/-! ## What follows the authority -/

/-- What is written behind the authority. -/
def tailChars (u : Url) : List Char :=
  u.path ++ marked '?' u.query ++ marked '#' u.fragment

theorem toChars_eq (u : Url) :
    u.toChars = u.scheme ++ ':' :: '/' :: '/' :: (u.authority ++ u.tailChars) := by
  simp only [toChars, tailChars, List.append_assoc, List.cons_append]

/-- **What is written behind an authority is cut again**, with the marks of empty
parts or without them. -/
theorem splitTail_of_isMarked {path query fragment q f : List Char} (hq : IsMarked '?' query q)
    (hf : IsMarked '#' fragment f) (hpath : '?' ∉ path ∧ '#' ∉ path) (hquery : '#' ∉ query) :
    splitTail (path ++ q ++ f) = (path, query, fragment) := by
  have hfront : '#' ∉ path ++ q := by
    rcases hq with rfl | ⟨rfl, rfl⟩
    · simp [hpath.2, hquery]
    · simp [hpath.2]
  simp only [splitTail, cutAt_of_isMarked hf hfront, cutAt_of_isMarked hq hpath.1]

/-- The components behind an authority hold no mark of a later one. -/
structure HasParts (u : Url) : Prop where
  path : '?' ∉ u.path ∧ '#' ∉ u.path
  query : '#' ∉ u.query

variable {cs scheme tail : List Char} {u : Url}

theorem mem_cutAt {c d : Char} (h : d ∈ (cutAt c cs).1 ∨ d ∈ (cutAt c cs).2) : d ∈ cs := by
  rcases h with h | h
  · exact (List.takeWhile_sublist _).subset h
  · exact (List.dropWhile_sublist _).subset (List.mem_of_mem_tail h)

theorem IsCut.hasParts (h : IsCut cs scheme tail u) : u.HasParts := by
  have hparts := h.parts
  simp only [splitTail, Prod.mk.injEq] at hparts
  obtain ⟨hpath, hquery, -⟩ := hparts
  have hhash := notMem_cutAt_fst '#' tail
  refine ⟨⟨hpath ▸ notMem_cutAt_fst _ _, fun hc => ?_⟩, fun hc => ?_⟩
  · exact hhash (mem_cutAt (Or.inl (hpath ▸ hc)))
  · exact hhash (mem_cutAt (Or.inr (hquery ▸ hc)))

/-- What is written behind the authority starts as the text did. -/
theorem IsCut.endsAuthority_of_head? (h : IsCut cs scheme tail u) :
    ∀ c ∈ u.tailChars.head?, endsAuthority c = true := by
  have hpath : u.path <+: tail := by
    have hparts := congrArg Prod.fst h.parts
    simp only [splitTail] at hparts
    exact hparts ▸ (List.takeWhile_prefix _).trans (List.takeWhile_prefix _)
  intro c hc
  rw [tailChars] at hc
  cases hu : u.path with
  | cons d ds =>
    obtain ⟨rest, hrest⟩ := hpath
    rw [hu] at hc hrest
    rw [List.cons_append, List.cons_append, List.head?_cons] at hc
    exact h.boundary c (by rw [← hrest]; exact hc)
  | nil =>
    -- then it starts with a mark
    rw [hu] at hc
    cases hq : u.query with
    | cons d ds =>
      rw [hq] at hc
      cases hc
      rfl
    | nil =>
      rw [hq] at hc
      cases hf : u.fragment with
      | cons d ds =>
        rw [hf] at hc
        cases hc
        rfl
      | nil =>
        rw [hf] at hc
        cases hc

theorem IsCut.mem_of_mem_authority (h : IsCut cs scheme tail u) {c : Char}
    (hc : c ∈ u.authority) : c ∈ cs := by
  rw [h.text]
  simp [hc]

/-- What is written behind the authority was in the text, but for the marks. -/
theorem IsCut.mem_of_mem_tailChars (h : IsCut cs scheme tail u) {c : Char}
    (hc : c ∈ u.tailChars) : c ∈ cs ∨ c = '?' ∨ c = '#' := by
  have hmarked : ∀ {mark : Char} {component : List Char},
      c ∈ marked mark component → c = mark ∨ c ∈ component := by
    intro mark component hc
    cases component with
    | nil => cases hc
    | cons d ds => exact List.mem_cons.mp hc
  have hparts := h.parts
  simp only [splitTail, Prod.mk.injEq] at hparts
  obtain ⟨hpath, hquery, hfragment⟩ := hparts
  have htail : c ∈ tail → c ∈ cs := by
    intro hc
    rw [h.text]
    simp [hc]
  rw [tailChars, List.mem_append, List.mem_append] at hc
  rcases hc with (hc | hc) | hc
  · exact Or.inl (htail (mem_cutAt (Or.inl (mem_cutAt (Or.inl (hpath ▸ hc))))))
  · rcases hmarked hc with rfl | hc
    · exact Or.inr (Or.inl rfl)
    · exact Or.inl (htail (mem_cutAt (Or.inl (mem_cutAt (Or.inr (hquery ▸ hc))))))
  · rcases hmarked hc with rfl | hc
    · exact Or.inr (Or.inr rfl)
    · exact Or.inl (htail (mem_cutAt (Or.inr (hfragment ▸ hc))))

/-! ## A change at the end -/

/-- **An address that is changed at its end**: of path, query and fragment the
last that is not empty is changed, and of three empty ones the path. -/
def changeLast (f : List Char → List Char) (u : Url) : Url :=
  if u.fragment ≠ [] then { u with fragment := f u.fragment }
  else if u.query ≠ [] then { u with query := f u.query }
  else { u with path := f u.path }

/-- **A change at the end of a text** leaves alone what stands before a mark, and
the mark, and it brings in no mark. -/
structure ChangesEnd (f : List Char → List Char) : Prop where
  behind : ∀ {mark : Char}, mark = '?' ∨ mark = '#' → ∀ front back : List Char,
    f (front ++ mark :: back) = front ++ mark :: f back
  noMark : ∀ {mark : Char}, mark = '?' ∨ mark = '#' → ∀ {cs : List Char}, mark ∈ f cs → mark ∈ cs

/-- **A change at the end of what is written behind an authority** changes the
last component. Its mark is still there, even if nothing is left of it. -/
theorem splitTail_changed {f : List Char → List Char} (hf : ChangesEnd f) (h : u.HasParts) :
    splitTail (f u.tailChars)
      = ((changeLast f u).path, (changeLast f u).query, (changeLast f u).fragment) := by
  unfold changeLast tailChars
  split
  · next hfragment =>
    rw [marked_of_ne_nil hfragment, hf.behind (Or.inr rfl)]
    exact splitTail_of_isMarked (isMarked_marked _ _) (Or.inl rfl) h.path h.query
  · next hfragment =>
    rw [not_not.mp hfragment, marked_nil, List.append_nil]
    split
    · next hquery =>
      rw [marked_of_ne_nil hquery, hf.behind (Or.inl rfl)]
      simpa using splitTail_of_isMarked (Or.inl rfl) (Or.inr ⟨rfl, rfl⟩) h.path
        fun hc => h.query (hf.noMark (Or.inr rfl) hc)
    · next hquery =>
      have hpath : '?' ∉ f u.path ∧ '#' ∉ f u.path :=
        ⟨fun hc => h.path.1 (hf.noMark (Or.inl rfl) hc),
          fun hc => h.path.2 (hf.noMark (Or.inr rfl) hc)⟩
      rw [not_not.mp hquery, marked_nil, List.append_nil]
      simpa using splitTail_of_isMarked (Or.inr ⟨rfl, rfl⟩) (Or.inr ⟨rfl, rfl⟩) hpath
        List.not_mem_nil

end Url

/-! ## A slash less -/

namespace BaseUrl

open Url

/-- The slash at the end of two texts in a row is that of the second. -/
theorem dropSlash_append {back : List Char} (h : back ≠ []) (front : List Char) :
    dropSlash (front ++ back) = front ++ dropSlash back := by
  simp only [dropSlash, List.getLast?_append_of_ne_nil _ h, List.dropLast_append_of_ne_nil h]
  split <;> rfl

theorem dropSlash_cons {cs : List Char} (h : cs ≠ []) (c : Char) :
    dropSlash (c :: cs) = c :: dropSlash cs :=
  dropSlash_append h [c]

theorem dropSlash_of_notMem {cs : List Char} (h : '/' ∉ cs) : dropSlash cs = cs := by
  rw [dropSlash, if_neg fun hlast => h (List.mem_of_getLast? hlast)]

/-- Nothing but what is dropped is missing. -/
theorem exists_dropSlash_append (cs : List Char) : ∃ rest, dropSlash cs ++ rest = cs := by
  unfold dropSlash
  split
  · exact List.dropLast_prefix cs
  · exact ⟨[], List.append_nil cs⟩

theorem mem_of_mem_dropSlash {c : Char} {cs : List Char} (h : c ∈ dropSlash cs) : c ∈ cs := by
  obtain ⟨rest, hrest⟩ := exists_dropSlash_append cs
  rw [← hrest]
  exact List.mem_append_left rest h

/-- **An address without the slash at its end**: the last of path, query and
fragment that is not empty loses it. -/
def withoutSlash (u : Url) : Url :=
  if u.fragment ≠ [] then { u with fragment := dropSlash u.fragment }
  else if u.query ≠ [] then { u with query := dropSlash u.query }
  else { u with path := dropSlash u.path }

/-- Nothing else of the address is changed. -/
theorem scheme_withoutSlash (u : Url) : (withoutSlash u).scheme = u.scheme := by
  unfold withoutSlash
  split
  · rfl
  · split <;> rfl

/-- A slash is dropped behind a mark or not at all. -/
theorem changesEnd_dropSlash : ChangesEnd dropSlash where
  behind hmark front back := by
    rw [dropSlash_append (List.cons_ne_nil _ _)]
    congr 1
    by_cases hback : back = []
    · rw [hback]
      rcases hmark with rfl | rfl <;> rfl
    · exact dropSlash_cons hback _
  noMark _ _ hc := mem_of_mem_dropSlash hc

/-- **Dropping a slash behind the authority** drops it from the last component,
even if its mark is left over. -/
theorem splitTail_dropSlash {u : Url} (h : u.HasParts) :
    splitTail (dropSlash u.tailChars)
      = ((withoutSlash u).path, (withoutSlash u).query, (withoutSlash u).fragment) :=
  splitTail_changed changesEnd_dropSlash h

/-- A scheme in lower case is a scheme, and stays as it is. -/
theorem isScheme_map_toLower {scheme : List Char} (h : isScheme scheme = true) :
    isScheme (scheme.map Char.toLower) = true ∧
      (scheme.map Char.toLower).map Char.toLower = scheme.map Char.toLower := by
  have hchar : ∀ c, isSchemeChar c = true → isSchemeChar c.toLower = true := by
    intro c hc
    by_cases hupper : c.isUpper = true
    · have hlower : c.toLower.isAlpha = true := by
        rw [Char.isAlpha_toLower_eq_isAlpha, Char.isAlpha, hupper, Bool.true_or]
      simp [isSchemeChar, Char.isAlphanum, hlower]
    · rwa [Char.toLower_eq_of_not_isUpper hupper]
  constructor
  · cases scheme with
    | nil => cases h
    | cons c cs =>
      simp only [isScheme, Bool.and_eq_true, List.all_eq_true] at h
      simp only [List.map_cons, isScheme, Bool.and_eq_true, List.all_eq_true,
        Char.isAlpha_toLower_eq_isAlpha, h.1, List.mem_map, true_and]
      rintro _ ⟨d, hd, rfl⟩
      exact hchar d (h.2 d hd)
  · simp

variable {cs scheme tail authority : List Char} {u : Url}

/-- **An address with another authority is written** without a slash at its end;
the slash that is dropped stands behind the authority. -/
theorem dropSlash_toChars (hne : authority ≠ [])
    (ha : ∀ c ∈ authority, endsAuthority c = false) :
    dropSlash (toChars { u with authority := authority })
      = u.scheme ++ ':' :: '/' :: '/' :: (authority ++ dropSlash u.tailChars) := by
  have hslash : '/' ∉ authority := fun hc => absurd (ha _ hc) (by decide)
  have hfront : ∀ cs : List Char, u.scheme ++ ':' :: '/' :: '/' :: (authority ++ cs)
      = (u.scheme ++ [':', '/', '/']) ++ (authority ++ cs) := by
    simp
  rw [toChars_eq, hfront, hfront, dropSlash_append (by simp [hne])]
  congr 1
  show dropSlash (authority ++ u.tailChars) = _
  by_cases ht : u.tailChars = []
  · rw [ht, List.append_nil, dropSlash_of_notMem hslash]
    exact (List.append_nil authority).symm
  · exact dropSlash_append ht authority

/-- **What is written is cut again**: the scheme in lower case, the other
authority, and the rest without the slash. -/
theorem isCut_written (h : IsCut cs scheme tail u) (ha : ∀ c ∈ authority, endsAuthority c = false) :
    IsCut (u.scheme ++ ':' :: '/' :: '/' :: (authority ++ dropSlash u.tailChars)) u.scheme
      (dropSlash u.tailChars) { withoutSlash u with authority := authority } := by
  obtain ⟨hscheme, hlower⟩ := isScheme_map_toLower h.isScheme
  rw [← h.lower] at hscheme hlower
  refine ⟨rfl, hscheme, (scheme_withoutSlash u).trans hlower.symm, ha, ?_,
    splitTail_dropSlash h.hasParts⟩
  intro c hc
  obtain ⟨rest, hrest⟩ := exists_dropSlash_append u.tailChars
  apply h.endsAuthority_of_head?
  rw [← hrest, List.head?_append, hc, Option.some_or]
  rfl

end BaseUrl

/-! ## The parts of an authority -/

namespace Url

/-- **An authority with a user**, or without one. -/
def withUser (user : Option (List Char)) (part : List Char) : List Char :=
  match user with
  | some user => user ++ '@' :: part
  | none => part

variable {part host port text : List Char}

/-- Every authority is its user and the part behind. -/
theorem withUser_user? (authority : List Char) :
    withUser (user? authority) (hostPart authority) = authority := by
  unfold user? hostPart
  split
  · next h => exact beforeLast_append_afterLast h
  · next h => exact afterLast_of_notMem h

theorem user?_withUser (user : Option (List Char)) (h : '@' ∉ part) :
    user? (withUser user part) = user := by
  cases user with
  | none => exact if_neg h
  | some user =>
    rw [withUser, user?, if_pos (by simp), beforeLast_append_cons h]

theorem hostPart_withUser (user : Option (List Char)) (h : '@' ∉ part) :
    hostPart (withUser user part) = part := by
  cases user with
  | none => exact afterLast_of_notMem h
  | some user => exact afterLast_append_cons h user

/-- A host that is not in brackets ends at the first colon. -/
theorem hostAndPort_of_hostPart {authority : List Char} (h : hostPart authority = host ++ text)
    (hport : IsMarked ':' port text) (hbracket : '[' ∉ host ++ text) (hcolon : ':' ∉ host) :
    hostAndPort authority = (host, port) := by
  simp only [hostAndPort, h, if_neg hbracket, cutAt_of_isMarked hport hcolon]

/-- A port has few digits. -/
theorem length_toString_le {p : Nat} (h : p ≤ greatestPort) :
    (toString p).toList.length ≤ digitLimit := by
  rw [Nat.toString_eq_repr, Nat.toList_repr]
  have hfive : (Nat.toDigits 10 p).length ≤ 5 :=
    (Nat.length_toDigits_le_iff (by decide) (by decide)).mpr (by rw [greatestPort] at h; omega)
  exact hfive.trans (by decide)

/-- A number is written in digits, -/
theorem isDigit_of_mem_toString {p : Nat} {c : Char} (hc : c ∈ (toString p).toList) :
    c.isDigit = true := by
  rw [Nat.toString_eq_repr, Nat.toList_repr] at hc
  exact Nat.isDigit_of_mem_toDigits (by decide) (by decide) hc

/-- of which there is at least one, -/
theorem toList_toString_ne_nil (p : Nat) : (toString p).toList ≠ [] := by
  rw [Nat.toString_eq_repr, Nat.toList_repr]
  exact Nat.toDigits_ne_nil

/-- and the digits stand for it. -/
theorem ofDigitChars_toString (p : Nat) : Nat.ofDigitChars 10 (toString p).toList 0 = p := by
  rw [Nat.toString_eq_repr, Nat.toList_repr, Nat.ofDigitChars_ten_toDigits]

/-- The digits of a port are read as that port. -/
theorem readPort?_digits {p : Nat} (h : p ≤ greatestPort) :
    readPort? (toString p).toList = some (some p) := by
  have hdigits : (toString p).toList.all Char.isDigit = true :=
    List.all_eq_true.mpr fun c hc => isDigit_of_mem_toString hc
  have hempty : ¬ (toString p).toList.isEmpty = true := fun he =>
    toList_toString_ne_nil p (List.isEmpty_iff.mp he)
  rw [readPort?, if_neg hempty, ofDigitChars_toString, hdigits]
  simp only [length_toString_le h, h, decide_true, Bool.and_self, if_true]

/-- A port that is read is not too great. -/
theorem le_of_readPort? {p : Nat} (h : readPort? text = some (some p)) : p ≤ greatestPort := by
  unfold readPort? at h
  split at h
  · cases h
  · split at h
    · next hport =>
      cases h
      simp only [Bool.and_eq_true, decide_eq_true_eq] at hport
      exact hport.2
    · cases h

/-- The digits of a port that is written anew, none if there is no port. -/
def portDigits : Option (Option Nat) → List Char
  | some (some p) => (toString p).toList
  | _ => []

/-- A port that is written anew is read as it was. -/
theorem readPort?_portDigits {p : Option Nat} (h : readPort? text = some p) :
    readPort? (portDigits (some p)) = some p := by
  cases p with
  | none => rfl
  | some p => exact readPort?_digits (le_of_readPort? h)

theorem isDigit_of_mem_portDigits {p : Option (Option Nat)} {c : Char} (hc : c ∈ portDigits p) :
    c.isDigit = true := by
  unfold portDigits at hc
  split at hc
  · exact isDigit_of_mem_toString hc
  · cases hc

/-- Where there are brackets the host is a literal network address. -/
theorem isLiteral_of_bracketsFit {authority : List Char} (h : bracketsFit authority = true)
    (hb : '[' ∈ authority ∨ ']' ∈ authority) : isLiteral (Url.host authority) = true := by
  rw [bracketsFit, if_pos hb] at h
  exact (Bool.and_eq_true_iff.mp h).2

/-- **What an authority that names a server is made of.** -/
theorem isAdmissible_iff {authority : List Char} :
    isAdmissible authority = true ↔ bracketsFit authority = true ∧
      (∀ c ∈ authority, hidesDelimiter c = false) ∧ Url.host authority ≠ [] ∧
      ∃ p, port? authority = some p := by
  simp only [isAdmissible, Bool.and_eq_true, Bool.not_eq_true', List.any_eq_false,
    Bool.not_eq_true, List.isEmpty_eq_false_iff, Option.isSome_iff_exists, and_assoc]

end Url

/-! ## An authority that can be reached -/

namespace BaseUrl

open Url

variable {authority : List Char}

theorem toList_loopback : loopback.toList = ['1', '2', '7', '.', '0', '.', '0', '.', '1'] := rfl

/-- The loopback address and a port are digits, dots and a colon. -/
theorem mem_loopback_port {p : Option (Option Nat)} {c : Char}
    (hc : c ∈ loopback.toList ++ marked ':' (portDigits p)) :
    c.isDigit = true ∨ c = '.' ∨ c = ':' := by
  rcases List.mem_append.mp hc with hc | hc
  · have table : loopback.toList.all (fun c => c.isDigit || c == '.') = true := rfl
    have := List.all_eq_true.mp table c hc
    simp only [Bool.or_eq_true, beq_iff_eq] at this
    exact this.imp_right Or.inl
  · by_cases hdigits : portDigits p = []
    · rw [hdigits] at hc
      cases hc
    · rw [marked_of_ne_nil hdigits] at hc
      rcases List.mem_cons.mp hc with rfl | hc
      · exact Or.inr (Or.inr rfl)
      · exact Or.inl (isDigit_of_mem_portDigits hc)

/-- The authority of a host that stands for all addresses is written anew. -/
theorem reachable_of_host (h : host authority = anyHost.toList) :
    reachable authority = withUser (user? authority)
      (loopback.toList ++ marked ':' (portDigits (port? authority))) := by
  have hport : ∀ p : Nat, marked ':' (portDigits (some (some p))) = ':' :: (toString p).toList :=
    fun p => marked_of_ne_nil (toList_toString_ne_nil p)
  rw [reachable, if_pos h]
  cases user? authority with
  | none =>
    rcases port? authority with _ | _ | p
    · rfl
    · rfl
    · rw [hport]
      rfl
  | some user =>
    rcases port? authority with _ | _ | p
    · simp [withUser, portDigits]
    · simp [withUser, portDigits]
    · simp [withUser, hport]

/-- An authority with a bracket has no host that stands for all addresses. -/
theorem notMem_bracket_of_host (ha : isAdmissible authority = true)
    (h : host authority = anyHost.toList) : '[' ∉ authority ∧ ']' ∉ authority := by
  have hliteral := isLiteral_of_bracketsFit (isAdmissible_iff.mp ha).1
  rw [h, show isLiteral anyHost.toList = false by decide +kernel] at hliteral
  by_contra hb
  cases hliteral (by tauto)

/-- All characters of the authority to connect to stand in the authority that
was given, or are those of a host and a port. -/
theorem mem_reachable {c : Char} (hc : c ∈ reachable authority) :
    c ∈ authority ∨ c.isDigit = true ∨ c = '.' ∨ c = ':' ∨ c = '@' := by
  by_cases h : host authority = anyHost.toList
  · rw [reachable_of_host h] at hc
    cases huser : user? authority with
    | none =>
      rw [huser] at hc
      have := mem_loopback_port hc
      tauto
    | some user =>
      rw [huser, withUser, List.mem_append, List.mem_cons] at hc
      rcases hc with hc | rfl | hc
      · left
        rw [← withUser_user? authority, huser]
        exact List.mem_append_left _ hc
      · simp
      · have := mem_loopback_port hc
        tauto
  · rw [reachable, if_neg h] at hc
    exact Or.inl hc

/-- **What is written anew** is an authority with the same user, the loopback
address and the same port. -/
theorem parts_reachable (h : host authority = anyHost.toList) :
    user? (reachable authority) = user? authority ∧
      hostAndPort (reachable authority)
        = (loopback.toList, portDigits (port? authority)) := by
  have hat : '@' ∉ loopback.toList ++ marked ':' (portDigits (port? authority)) :=
    fun hc => absurd (mem_loopback_port hc) (by decide)
  have hbracket : '[' ∉ loopback.toList ++ marked ':' (portDigits (port? authority)) :=
    fun hc => absurd (mem_loopback_port hc) (by decide)
  have hcolon : ':' ∉ loopback.toList := by
    rw [toList_loopback]
    decide
  rw [reachable_of_host h]
  exact ⟨user?_withUser _ hat, hostAndPort_of_hostPart (hostPart_withUser _ hat)
    (isMarked_marked _ _) hbracket hcolon⟩

/-- **The authority to connect to** names a server if the given one does, with the
same user and the same port, and with the host to connect to. -/
structure Reaches (authority reached : List Char) : Prop where
  admissible : isAdmissible reached = true
  user : user? reached = user? authority
  port : port? reached = port? authority
  host : String.ofList (Url.host reached) = connectHost (String.ofList (Url.host authority))

theorem reaches_reachable (ha : isAdmissible authority = true) :
    Reaches authority (reachable authority) := by
  by_cases h : host authority = anyHost.toList
  · obtain ⟨huser, hparts⟩ := parts_reachable h
    obtain ⟨-, hclear, -, p, hp⟩ := isAdmissible_iff.mp ha
    have hport : port? (reachable authority) = port? authority := by
      rw [hp, port?, hparts, hp]
      exact readPort?_portDigits hp
    have hhost : host (reachable authority) = loopback.toList := congrArg Prod.fst hparts
    obtain ⟨hopen, hclose⟩ := notMem_bracket_of_host ha h
    have hnone : ¬ ('[' ∈ reachable authority ∨ ']' ∈ reachable authority) := by
      rintro (hc | hc)
      · exact absurd ((mem_reachable hc).resolve_left hopen) (by decide)
      · exact absurd ((mem_reachable hc).resolve_left hclose) (by decide)
    refine ⟨isAdmissible_iff.mpr ⟨if_neg hnone, ?_, ?_, p, hport.trans hp⟩, huser, hport, ?_⟩
    · intro c hc
      rcases mem_reachable hc with hc | hc
      · exact hclear c hc
      · refine hidesDelimiter_of_ascii ?_
        rcases hc with hc | rfl | rfl | rfl
        · have := (Char.isDigit_iff_toNat.mp hc).2
          exact this.trans_lt (by decide)
        all_goals decide
    · rw [hhost, toList_loopback]
      exact List.cons_ne_nil _ _
    · rw [hhost, h, String.ofList_toList, String.ofList_toList, connectHost, if_pos rfl]
  · have hne : String.ofList (host authority) ≠ anyHost := by
      intro he
      rw [← he, String.toList_ofList] at h
      exact h rfl
    have hsame : reachable authority = authority := if_neg h
    rw [hsame]
    exact ⟨ha, rfl, rfl, by rw [connectHost, if_neg hne]⟩

/-- An authority to connect to is not empty. -/
theorem reachable_ne_nil (ha : isAdmissible authority = true) : reachable authority ≠ [] := by
  intro hnil
  have hhost := (isAdmissible_iff.mp (reaches_reachable ha).admissible).2.2.1
  rw [hnil] at hhost
  exact hhost rfl

/-- The authority to connect to ends where the given one did. -/
theorem endsAuthority_reachable (h : ∀ c ∈ authority, endsAuthority c = false) :
    ∀ c ∈ reachable authority, endsAuthority c = false := by
  intro c hc
  rcases mem_reachable hc with hc | hc | rfl | rfl | rfl
  · exact h c hc
  · simp only [endsAuthority, Bool.or_eq_false_iff, beq_eq_false_iff_ne]
    refine ⟨⟨?_, ?_⟩, ?_⟩ <;> rintro rfl <;> exact absurd hc (by decide)
  all_goals decide

end BaseUrl

/-! ## What is cleaned again -/

namespace Url

/-- A character of ASCII that can be seen. -/
def IsVisible (c : Char) : Prop :=
  0x20 < c.toNat ∧ c.toNat < 0x7f

instance : DecidablePred IsVisible :=
  fun c => inferInstanceAs (Decidable (0x20 < c.toNat ∧ c.toNat < 0x7f))

theorem IsVisible.isBlank {c : Char} (h : IsVisible c) : isBlank c = false := by
  obtain ⟨low, high⟩ := h
  simp only [Text.isBlank, Bool.or_eq_false_iff, Bool.and_eq_false_iff, decide_eq_false_iff_not,
    beq_eq_false_iff_ne]
  omega

/-- What is deleted is blank. -/
theorem isDeleted_of_not_isBlank {c : Char} (h : isBlank c = false) : isDeleted c = false := by
  simp only [isDeleted, Bool.or_eq_false_iff, beq_eq_false_iff_ne]
  refine ⟨⟨?_, ?_⟩, ?_⟩ <;> rintro rfl <;> exact absurd h (by decide)

theorem isVisible_of_isDigit {c : Char} (h : c.isDigit = true) : IsVisible c := by
  obtain ⟨low, high⟩ := Char.isDigit_iff_toNat.mp h
  have h₀ : '0'.toNat = 0x30 := rfl
  have h₉ : '9'.toNat = 0x39 := rfl
  exact ⟨by omega, by omega⟩

theorem isVisible_of_isSchemeChar {c : Char} (h : isSchemeChar c = true) : IsVisible c := by
  simp only [isSchemeChar, Char.isAlphanum, Char.isAlpha, Char.isUpper, Char.isLower,
    Bool.or_eq_true, Bool.and_eq_true, decide_eq_true_eq, beq_iff_eq, ge_iff_le,
    UInt32.le_iff_toNat_le, Char.toNat_val] at h
  have bounds : 'A'.toNat = 0x41 ∧ 'Z'.toNat = 0x5a ∧ 'a'.toNat = 0x61 ∧ 'z'.toNat = 0x7a :=
    ⟨rfl, rfl, rfl, rfl⟩
  rcases h with (((h | h) | rfl) | rfl) | rfl
  · exact ⟨by omega, by omega⟩
  · exact isVisible_of_isDigit h
  all_goals decide

/-- What was cleaned was there before, and nothing of it is deleted. -/
theorem mem_of_mem_clean {raw : List Char} {c : Char} (hc : c ∈ clean raw) :
    c ∈ raw ∧ isDeleted c = false := by
  obtain ⟨hmem, hkept⟩ := List.mem_filter.mp hc
  refine ⟨?_, by simpa using hkept⟩
  exact (List.dropWhile_sublist _).subset
    (mem_of_mem_dropTrailing ((List.dropWhile_sublist _).subset hmem))

/-- **What is left of the end of a text** that is cleaned. -/
def cleanedTail (cs : List Char) : List Char :=
  (dropTrailing isBlank cs).filter fun c => !isDeleted c

/-- What is no blank is left. -/
theorem cleanedTail_cons {c : Char} (h : isBlank c = false) (cs : List Char) :
    cleanedTail (c :: cs) = c :: cleanedTail cs := by
  have hdrop : dropTrailing isBlank (c :: cs) = c :: dropTrailing isBlank cs :=
    dropTrailing_append_cons_of_not h [] cs
  rw [cleanedTail, hdrop, List.filter_cons_of_pos (by rw [isDeleted_of_not_isBlank h]; rfl),
    cleanedTail]

/-- **Cleaning a text that starts with a visible character** takes nothing away in front
of it. -/
theorem clean_cons {c : Char} (first : IsVisible c) (cs : List Char) :
    clean (c :: cs) = c :: cleanedTail cs := by
  have hdrop : dropTrailing isBlank (c :: cs) = c :: dropTrailing isBlank cs :=
    dropTrailing_append_cons_of_not first.isBlank [] cs
  have hcontrol : ¬ (decide (c.toNat ≤ 0x20) = true) := by
    rw [decide_eq_true_eq, Nat.not_le]
    exact first.1
  rw [← cleanedTail_cons first.isBlank, clean, trim,
    List.dropWhile_cons_of_neg (by simp [first.isBlank]), hdrop, List.dropWhile_cons,
    if_neg hcontrol, ← hdrop, cleanedTail]

/-- **Cleaning a text that is cut into an address**, and of which nothing is
deleted, only takes away the blanks at its end. -/
theorem IsCut.clean_eq {cs scheme tail : List Char} {u : Url} (h : IsCut cs scheme tail u)
    (kept : ∀ c ∈ cs, isDeleted c = false) : clean cs = dropTrailing isBlank cs := by
  obtain ⟨c, rest, rfl, first⟩ : ∃ c rest, cs = c :: rest ∧ IsVisible c := by
    have hscheme := h.isScheme
    cases scheme with
    | nil => cases hscheme
    | cons c scheme =>
      exact ⟨c, _, h.text, isVisible_of_isSchemeChar
        (isSchemeChar_of_mem hscheme List.mem_cons_self)⟩
  rw [clean_cons first, ← cleanedTail_cons first.isBlank, cleanedTail]
  refine List.filter_eq_self.mpr fun d hd => ?_
  rw [kept d (mem_of_mem_dropTrailing hd), Bool.not_false]

/-- **A text without blanks** that is cut into an address is read as that. -/
theorem IsCut.split?_eq {cs scheme tail : List Char} {u : Url} (h : IsCut cs scheme tail u)
    (hblank : ∀ c ∈ cs, isBlank c = false) (ha : isAdmissible u.authority = true) :
    split? cs = some u := by
  have hclean : clean cs = cs := by
    rw [h.clean_eq fun c hc => isDeleted_of_not_isBlank (hblank c hc)]
    exact dropTrailing_eq_self fun c hc => hblank c (List.mem_of_getLast? hc)
  rw [split?, hclean, components?_eq_some_iff.mpr ⟨_, _, h⟩]
  exact Option.filter_some_pos ha

end Url

namespace BaseUrl

open Url

/-- **What the base address of a URL looks like.** The URL is cut into an address;
the text of its base address is cut into the same one, but for the authority to
connect to and the slash at the end. No character of it is new but visible
ones, and none is deleted when it is read. -/
theorem of_ofUrl? {raw value : String} (h : ofUrl? raw = some value) :
    ∃ u : Url, split? raw.toList = some u ∧ u.HasParts ∧
      u.scheme.map Char.toLower = u.scheme ∧
      IsCut value.toList u.scheme (dropSlash u.tailChars)
        { withoutSlash u with authority := reachable u.authority } ∧
      ∀ c ∈ value.toList, (c ∈ raw.toList ∧ isDeleted c = false) ∨ IsVisible c := by
  obtain ⟨u, hu, rfl⟩ := Option.map_eq_some_iff.mp h
  have ha := isAdmissible_of_split? hu
  obtain ⟨scheme, tail, hcut⟩ :=
    components?_eq_some_iff.mp (Option.filter_eq_some_iff.mp hu).1
  have hends := endsAuthority_reachable hcut.authority
  rw [String.toList_ofList, dropSlash_toChars (reachable_ne_nil ha) hends]
  have hwritten := isCut_written hcut hends
  refine ⟨u, hu, hcut.hasParts, ?_, hwritten, ?_⟩
  · rw [hcut.lower]
    exact (isScheme_map_toLower hcut.isScheme).2
  · intro c hc
    have hvisible : ∀ d ∈ [':', '/', '?', '#', '.', '@'], IsVisible d := by
      have table : [':', '/', '?', '#', '.', '@'].all (fun d => decide (IsVisible d)) = true := rfl
      simpa using table
    simp only [List.mem_append, List.mem_cons] at hc
    rcases hc with hc | rfl | rfl | rfl | hc | hc
    · exact Or.inr (isVisible_of_isSchemeChar (isSchemeChar_of_mem hwritten.isScheme hc))
    · exact Or.inr (hvisible _ (by simp))
    · exact Or.inr (hvisible _ (by simp))
    · exact Or.inr (hvisible _ (by simp))
    · rcases mem_reachable hc with hc | hc | rfl | rfl | rfl
      · exact Or.inl (mem_of_mem_clean (hcut.mem_of_mem_authority hc))
      · exact Or.inr (isVisible_of_isDigit hc)
      all_goals exact Or.inr (hvisible _ (by simp))
    · rcases hcut.mem_of_mem_tailChars (mem_of_mem_dropSlash hc) with hc | rfl | rfl
      · exact Or.inl (mem_of_mem_clean hc)
      all_goals exact Or.inr (hvisible _ (by simp))

/-- **The base address of a URL means what the URL means**: scheme, user and port
are the same, the host is the one to connect to, and the slash at the end is
gone. -/
structure Means (u v : Url) : Prop where
  scheme : v.scheme = u.scheme ∧ u.scheme.map Char.toLower = u.scheme
  authority : Reaches u.authority v.authority
  path : v.path = (withoutSlash u).path
  query : v.query = (withoutSlash u).query
  fragment : v.fragment = (withoutSlash u).fragment

/-- **Normalising a URL keeps its meaning.** If a URL without blanks and control
characters has a base address, then that is a URL again, and it means the
same. -/
theorem ofUrl?_keeps_meaning {raw value : String}
    (hplain : ∀ c ∈ raw.toList, isBlank c = false ∧ 0x20 ≤ c.toNat)
    (h : ofUrl? raw = some value) :
    ∃ u v, split? raw.toList = some u ∧ split? value.toList = some v ∧ Means u v := by
  obtain ⟨u, hu, -, hlower, hcut, hchars⟩ := of_ofUrl? h
  have hreaches := reaches_reachable (isAdmissible_of_split? hu)
  have hblank : ∀ c ∈ value.toList, isBlank c = false := by
    intro c hc
    rcases hchars c hc with hc | hc
    · exact (hplain c hc.1).1
    · exact hc.isBlank
  exact ⟨u, _, hu, hcut.split?_eq hblank hreaches.admissible, ⟨scheme_withoutSlash u, hlower⟩,
    hreaches, rfl, rfl, rfl⟩

/-- A URL with a user, a port with a needless zero and a slash that is all of its
query: its base address ends with the mark of the query. -/
theorem ofUrl?_keeps_meaning_of_slash :
    (∀ c ∈ "HTTP://me@0.0.0.0:080/a/?/".toList, isBlank c = false ∧ 0x20 ≤ c.toNat) ∧
      ofUrl? "HTTP://me@0.0.0.0:080/a/?/" = some "http://me@127.0.0.1:80/a/?" ∧
      ∃ u v, split? "HTTP://me@0.0.0.0:080/a/?/".toList = some u ∧
        split? "http://me@127.0.0.1:80/a/?".toList = some v ∧ Means u v := by
  have hplain : ∀ c ∈ "HTTP://me@0.0.0.0:080/a/?/".toList, isBlank c = false ∧ 0x20 ≤ c.toNat := by
    have table : "HTTP://me@0.0.0.0:080/a/?/".toList.all
        (fun c => !isBlank c && decide (0x20 ≤ c.toNat)) = true := by decide +kernel
    simpa only [List.all_eq_true, Bool.and_eq_true, Bool.not_eq_true', decide_eq_true_eq]
      using table
  have h : ofUrl? "HTTP://me@0.0.0.0:080/a/?/" = some "http://me@127.0.0.1:80/a/?" := by
    decide +kernel
  exact ⟨hplain, h, ofUrl?_keeps_meaning hplain h⟩

end BaseUrl

end LocalServer
