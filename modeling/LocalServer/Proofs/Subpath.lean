import LocalServer.Proofs.Rereading
import LocalServer.Text.LowerCase

/-!
# A subpath stays a path

The base address of a server is put together from its host, its port and its subpath,
and the subpath may be any text. It is written behind the port, and reading the address
takes it for whatever it looks like there: blanks at its end are lost, tabs and line
ends vanish from within, and a `?` or `#` in it begins a query or a fragment. What it
cannot do is to reach into the authority before it. For it was tidied, and is empty or
starts with a slash; and that slash ends the authority, and is neither blank nor deleted,
so that it is still there when the text is cleaned (`Url.split?_hostAndPort`).
-/

namespace LocalServer

open Text

namespace Url

/-! ## Cleaning behind visible characters -/

/-- Visible characters are left, and all that is left behind them. -/
theorem cleanedTail_append {front : List Char} (h : ∀ c ∈ front, IsVisible c)
    (tail : List Char) : cleanedTail (front ++ tail) = front ++ cleanedTail tail := by
  induction front with
  | nil => rfl
  | cons c front ih =>
    rw [List.cons_append, cleanedTail_cons (h c List.mem_cons_self).isBlank,
      ih fun d hd => h d (List.mem_cons_of_mem c hd), List.cons_append]

/-- **Cleaning leaves visible characters alone** at the start of a text. -/
theorem clean_append {front : List Char} (hne : front ≠ []) (h : ∀ c ∈ front, IsVisible c)
    (tail : List Char) : clean (front ++ tail) = front ++ cleanedTail tail := by
  obtain ⟨c, front, rfl⟩ := List.exists_cons_of_ne_nil hne
  have hfirst := h c List.mem_cons_self
  rw [List.cons_append, clean_cons hfirst, ← cleanedTail_cons hfirst.isBlank, ← List.cons_append,
    cleanedTail_append h]

/-- **A path**, with what follows it: it is empty, or starts with a slash. -/
def StartsPath (tail : List Char) : Prop :=
  ∀ c ∈ tail.head?, c = '/'

/-- Cleaning keeps the slash at the start. -/
theorem StartsPath.cleanedTail {tail : List Char} (h : StartsPath tail) :
    StartsPath (cleanedTail tail) := by
  cases tail with
  | nil => exact h
  | cons c tail =>
    obtain rfl : c = '/' := h c rfl
    rw [cleanedTail_cons rfl]
    rintro d ⟨⟩
    rfl

/-- Where a path starts, it is cut off with its slash. -/
theorem StartsPath.splitTail {tail : List Char} (h : StartsPath tail) :
    StartsPath (splitTail tail).1 := by
  cases tail with
  | nil => exact h
  | cons c tail =>
    obtain rfl : c = '/' := h c rfl
    have hhash : '/' ≠ '#' := by decide
    have hquestion : '/' ≠ '?' := by decide
    simp only [Url.splitTail, cutAt_cons_of_ne hhash, cutAt_cons_of_ne hquestion]
    rintro d ⟨⟩
    rfl

/-! ## A host and a port -/

variable {host : List Char} {p : Nat}

/-- The characters of an authority that is made of a plain host and a port. -/
theorem mem_hostAndPort {c : Char} (hhost : ∀ c ∈ host, isSchemeChar c = true)
    (hc : c ∈ host ++ ':' :: (toString p).toList) : isSchemeChar c = true ∨ c = ':' := by
  rw [List.mem_append, List.mem_cons] at hc
  rcases hc with hc | rfl | hc
  · exact Or.inl (hhost c hc)
  · exact Or.inr rfl
  · left
    simp [isSchemeChar, Char.isAlphanum, isDigit_of_mem_toString hc]

/-- They can all be seen. -/
theorem isVisible_of_mem_hostAndPort {c : Char} (hhost : ∀ c ∈ host, isSchemeChar c = true)
    (hc : c ∈ host ++ ':' :: (toString p).toList) : IsVisible c := by
  rcases mem_hostAndPort hhost hc with hc | rfl
  · exact isVisible_of_isSchemeChar hc
  · decide

/-- **A plain host and a port** are cut apart again, and no user comes before them. -/
theorem parts_hostAndPort (hhost : ∀ c ∈ host, isSchemeChar c = true) :
    user? (host ++ ':' :: (toString p).toList) = none ∧
      hostAndPort (host ++ ':' :: (toString p).toList) = (host, (toString p).toList) := by
  have hat : '@' ∉ host ++ ':' :: (toString p).toList :=
    fun hc => absurd (mem_hostAndPort hhost hc) (by decide)
  have hopen : '[' ∉ host ++ ':' :: (toString p).toList :=
    fun hc => absurd (mem_hostAndPort hhost hc) (by decide)
  have hcolon : ':' ∉ host := fun hc => absurd (hhost _ hc) (by decide)
  exact ⟨if_neg hat,
    hostAndPort_of_hostPart (afterLast_of_notMem hat) (Or.inl rfl) hopen hcolon⟩

theorem port?_hostAndPort (hhost : ∀ c ∈ host, isSchemeChar c = true) (hp : p ≤ greatestPort) :
    port? (host ++ ':' :: (toString p).toList) = some (some p) := by
  rw [port?, (parts_hostAndPort hhost).2]
  exact readPort?_digits hp

/-- **A plain host and a port** name a server. -/
theorem isAdmissible_hostAndPort (hne : host ≠ [])
    (hhost : ∀ c ∈ host, isSchemeChar c = true) (hp : p ≤ greatestPort) :
    isAdmissible (host ++ ':' :: (toString p).toList) = true := by
  have hbrackets : ¬ ('[' ∈ host ++ ':' :: (toString p).toList ∨
      ']' ∈ host ++ ':' :: (toString p).toList) := by
    rintro (hc | hc)
    · exact absurd (mem_hostAndPort hhost hc) (by decide)
    · exact absurd (mem_hostAndPort hhost hc) (by decide)
  refine isAdmissible_iff.mpr ⟨if_neg hbrackets, fun c hc => ?_, ?_, some p,
    port?_hostAndPort hhost hp⟩
  · exact hidesDelimiter_of_ascii ((isVisible_of_mem_hostAndPort hhost hc).2.trans (by decide))
  · rw [Url.host, (parts_hostAndPort hhost).2]
    exact hne

/-- **The address of a plain host and a port is read as that**, whatever follows them
from a slash on. -/
theorem split?_hostAndPort (hne : host ≠ []) (hhost : ∀ c ∈ host, isSchemeChar c = true)
    (hp : p ≤ greatestPort) {tail : List Char} (htail : StartsPath tail) :
    split? ("http://".toList ++ (host ++ ':' :: (toString p).toList) ++ tail) =
      some ⟨"http".toList, host ++ ':' :: (toString p).toList, (splitTail (cleanedTail tail)).1,
        (splitTail (cleanedTail tail)).2.1, (splitTail (cleanedTail tail)).2.2⟩ := by
  have hvisible : ∀ c ∈ "http://".toList ++ (host ++ ':' :: (toString p).toList),
      IsVisible c := by
    intro c hc
    rcases List.mem_append.mp hc with hc | hc
    · have table : "http://".toList.all (fun c => decide (IsVisible c)) = true := rfl
      simpa using List.all_eq_true.mp table c hc
    · exact isVisible_of_mem_hostAndPort hhost hc
  have hends : ∀ c ∈ host ++ ':' :: (toString p).toList, endsAuthority c = false := by
    intro c hc
    rw [← Bool.not_eq_true]
    intro hend
    simp only [endsAuthority, Bool.or_eq_true, beq_iff_eq] at hend
    rcases hend with (rfl | rfl) | rfl <;> exact absurd (mem_hostAndPort hhost hc) (by decide)
  have hboundary : ∀ c ∈ (cleanedTail tail).head?, endsAuthority c = true := by
    intro c hc
    rw [htail.cleanedTail c hc]
    rfl
  have hcut : IsCut ("http://".toList ++ (host ++ ':' :: (toString p).toList) ++ cleanedTail tail)
      "http".toList (cleanedTail tail) ⟨"http".toList, host ++ ':' :: (toString p).toList,
        (splitTail (cleanedTail tail)).1, (splitTail (cleanedTail tail)).2.1,
        (splitTail (cleanedTail tail)).2.2⟩ :=
    ⟨by rw [List.append_assoc]; rfl, rfl, rfl, hends, hboundary, rfl⟩
  rw [split?, clean_append (by simp) hvisible, components?_eq_some_iff.mpr ⟨_, _, hcut⟩]
  exact Option.filter_some_pos (isAdmissible_hostAndPort hne hhost hp)

/-- **The name of the host** of an authority: the host in lower case, but for the zone
that may follow a `%`. -/
def hostName (authority : List Char) : List Char :=
  lowerCase ((Url.host authority).takeWhile (· ≠ '%')) ++ (Url.host authority).dropWhile (· ≠ '%')

/-- A plain host has no zone, and its capitals are those of ASCII. -/
theorem hostName_hostAndPort (hhost : ∀ c ∈ host, isSchemeChar c = true) :
    hostName (host ++ ':' :: (toString p).toList) = host.map Char.toLower := by
  have hzone : ∀ c ∈ host, decide (c ≠ '%') = true := fun c hc => by
    rw [decide_eq_true_eq]
    rintro rfl
    exact absurd (hhost _ hc) (by decide)
  have hsigma : '\u03a3' ∉ host := fun hc => absurd (hhost _ hc) (by decide)
  have hlower : ∀ cs : List Char, (∀ c ∈ cs, isSchemeChar c = true) →
      cs.flatMap lowerForm = cs.map Char.toLower := by
    intro cs hcs
    rw [← List.flatMap_singleton' (cs.map Char.toLower), List.flatMap_map]
    refine List.flatMap_congr fun c hc => ?_
    exact lowerForm_of_ascii ((isVisible_of_isSchemeChar (hcs c hc)).2.trans (by decide))
  rw [hostName, Url.host, (parts_hostAndPort hhost).2]
  have htake : host.takeWhile (· ≠ '%') = host := List.takeWhile_eq_self_iff.mpr hzone
  have hdrop : host.dropWhile (· ≠ '%') = [] := List.dropWhile_eq_nil_iff.mpr hzone
  rw [htake, hdrop, List.append_nil, lowerCase_eq_flatMap hsigma, hlower host hhost]

end Url

namespace BaseUrl

open Url

/-! ## Subpaths -/

/-- What is left of a subpath without blanks around it and without slashes at both ends
is marked with a slash. -/
theorem subpathChars_eq_marked (cs : List Char) : subpathChars cs
    = marked '/' ((dropTrailing (· == '/') (trim cs)).dropWhile (· == '/')) := by
  unfold subpathChars
  cases (dropTrailing (· == '/') (trim cs)).dropWhile (· == '/') <;> rfl

theorem startsPath_subpathChars (cs : List Char) : StartsPath (subpathChars cs) := by
  rw [subpathChars_eq_marked]
  cases (dropTrailing (· == '/') (trim cs)).dropWhile (· == '/') with
  | nil => rintro c ⟨⟩
  | cons first core =>
    rintro c ⟨⟩
    rfl

/-- **The end of a tidied subpath** is that of the subpath without the blanks around it
and without the slashes at its end. -/
theorem getLast?_subpathChars_eq (cs : List Char) :
    (subpathChars cs).getLast? = (dropTrailing (· == '/') (trim cs)).getLast? := by
  rw [subpathChars_eq_marked]
  rcases List.eq_nil_or_concat (dropTrailing (· == '/') (trim cs)) with h | ⟨front, c, h⟩
  · rw [h]
    rfl
  · rw [List.concat_eq_append] at h
    have hlast : (dropTrailing (· == '/') (trim cs)).getLast? = some c := by
      rw [h, List.getLast?_concat]
    have hc : (c == '/') = false := of_getLast?_dropTrailing (p := (· == '/')) hlast
    -- the slashes at the start end before the last character
    have hkept : (front ++ [c]).dropWhile (· == '/') = front.dropWhile (· == '/') ++ [c] := by
      rw [List.dropWhile_append]
      split
      · next hempty =>
        rw [List.isEmpty_iff.mp hempty, List.dropWhile_cons_of_neg (by simp [hc])]
        rfl
      · rfl
    rw [h, hkept, marked_of_ne_nil (by simp), List.getLast?_cons_of_ne_nil (by simp),
      List.getLast?_concat, List.getLast?_concat]

/-- A tidied subpath does not end in a slash. -/
theorem getLast?_subpathChars (cs : List Char) : (subpathChars cs).getLast? ≠ some '/' := by
  rw [getLast?_subpathChars_eq]
  intro hlast
  exact absurd (of_getLast?_dropTrailing hlast) (by decide)

/-! ## The base address of a server -/

variable {ip : String} {port : Int}

/-- The characters of the host to connect to are plain if those of the address are. -/
theorem isSchemeChar_of_mem_connectHost (h : ∀ c ∈ ip.toList, isSchemeChar c = true) {c : Char}
    (hc : c ∈ (connectHost ip).toList) : isSchemeChar c = true := by
  unfold connectHost at hc
  split at hc
  · have table : loopback.toList.all isSchemeChar = true := rfl
    exact List.all_eq_true.mp table c hc
  · exact h c hc

theorem connectHost_ne_nil (h : ip ≠ "") : (connectHost ip).toList ≠ [] := by
  rw [ne_eq, String.toList_eq_nil_iff, connectHost]
  split
  · decide
  · exact h

/-- **The text of a base address**, for a port that is not negative. -/
theorem toList_ofParts (ip : String) (p : Nat) (subpath : String) :
    (ofParts ip p subpath).toList = "http://".toList
      ++ ((connectHost ip).toList ++ ':' :: (toString p).toList) ++ subpathChars subpath.toList := by
  rw [ofParts]
  simp only [String.toList_append, toList_tidySubpath, List.append_assoc]
  rfl

/-- **The base address of plain settings can be used**, and is read as what it was put
together from, whatever the subpath is. -/
theorem split?_ofParts (hne : ip ≠ "") (hip : ∀ c ∈ ip.toList, isSchemeChar c = true) {p : Nat}
    (hp : p ≤ greatestPort) (subpath : String) :
    ∃ v, split? (ofParts ip p subpath).toList = some v ∧ v.scheme = "http".toList ∧
      v.authority = (connectHost ip).toList ++ ':' :: (toString p).toList ∧
      StartsPath v.path := by
  have hsubpath := startsPath_subpathChars subpath.toList
  have hread := split?_hostAndPort (connectHost_ne_nil hne)
    (fun c => isSchemeChar_of_mem_connectHost hip) hp hsubpath
  rw [← toList_ofParts] at hread
  refine ⟨_, hread, rfl, rfl, ?_⟩
  dsimp only
  exact hsubpath.cleanedTail.splitTail

/-- **A subpath cannot move the address.** For an address of letters, digits, `.` and
`-` and any port there is, the base address can be used and does not end in a slash,
whatever the subpath is; and it is read as an address without a user, with the host to
connect to, with that port, and with a path that is empty or starts with a slash. -/
theorem ofParts_keeps_address (hne : ip ≠ "")
    (hip : ∀ c ∈ ip.toList, c.isAlphanum = true ∨ c = '.' ∨ c = '-')
    (hport : 0 ≤ port ∧ port ≤ 65535) (subpath : String) :
    isUsable (ofParts ip port subpath) = true ∧
    (ofParts ip port subpath).toList.getLast? ≠ some '/' ∧
    ∃ v, split? (ofParts ip port subpath).toList = some v ∧ v.scheme = "http".toList ∧
      user? v.authority = none ∧
      hostName v.authority = (connectHost ip).toList.map Char.toLower ∧
      port? v.authority = some (some port.toNat) ∧
      (v.path = [] ∨ v.path.head? = some '/') := by
  obtain ⟨p, rfl⟩ := Int.eq_ofNat_of_zero_le hport.1
  have hp : p ≤ greatestPort := Int.ofNat_le.mp hport.2
  have hchars : ∀ c ∈ ip.toList, isSchemeChar c = true := by
    intro c hc
    rcases hip c hc with h | rfl | rfl
    · rw [isSchemeChar, h]
      rfl
    · rfl
    · rfl
  have hhost : ∀ c ∈ (connectHost ip).toList, isSchemeChar c = true :=
    fun c => isSchemeChar_of_mem_connectHost hchars
  obtain ⟨v, hv, hscheme, hauthority, hpath⟩ := split?_ofParts hne hchars hp subpath
  refine ⟨by rw [isUsable, hv, Option.isSome_some], ?_, v, hv, hscheme, ?_, ?_, ?_, ?_⟩
  · intro hlast
    rw [toList_ofParts, List.getLast?_append, Option.or_eq_some_iff] at hlast
    rcases hlast with hlast | ⟨-, hlast⟩
    · exact getLast?_subpathChars _ hlast
    · -- without a subpath the last character is that of the authority
      rw [List.getLast?_append_of_ne_nil _ (List.append_ne_nil_of_right_ne_nil _
        (List.cons_ne_nil _ _))] at hlast
      exact absurd (mem_hostAndPort hhost (List.mem_of_getLast? hlast)) (by decide)
  · rw [hauthority]
    exact (parts_hostAndPort hhost).1
  · rw [hauthority]
    exact hostName_hostAndPort hhost
  · rw [hauthority]
    exact port?_hostAndPort hhost hp
  · cases h : v.path with
    | nil => exact Or.inl rfl
    | cons c cs =>
      rw [h] at hpath
      exact Or.inr (congrArg some (hpath c rfl))

/-- A subpath that looks like another authority is a path all the same. -/
theorem ofParts_keeps_address_of_hostile_subpath :
    "0.0.0.0" ≠ "" ∧ (∀ c ∈ "0.0.0.0".toList, c.isAlphanum = true ∨ c = '.' ∨ c = '-') ∧
      ((0 : Int) ≤ 4567 ∧ (4567 : Int) ≤ 65535) ∧
      ∃ v, split? (ofParts "0.0.0.0" 4567 "@example.org:80/?#[\t").toList = some v ∧
        user? v.authority = none ∧ hostName v.authority = "127.0.0.1".toList ∧
        port? v.authority = some (some 4567) ∧ (v.path = [] ∨ v.path.head? = some '/') := by
  have hchars : ∀ c ∈ "0.0.0.0".toList, c.isAlphanum = true ∨ c = '.' ∨ c = '-' := by
    simp
  have hport : (0 : Int) ≤ 4567 ∧ (4567 : Int) ≤ 65535 := by decide
  obtain ⟨-, -, v, hv, -, huser, hhost, hvport, hpath⟩ :=
    ofParts_keeps_address (by decide) hchars hport "@example.org:80/?#[\t"
  exact ⟨by decide, hchars, hport, v, hv, huser, hhost, hvport, hpath⟩

end BaseUrl

end LocalServer
