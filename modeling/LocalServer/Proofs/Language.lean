import LocalServer.Proofs.Usability

/-!
# The language of base addresses

A text can be used as a base address if the reader of addresses finds a scheme
and an authority in it, and the authority names a server. The reader cuts: at
the first `:`, at the first character that ends an authority, at the last `@`,
at the first `:` behind it. This module says without any cut which texts those
are. They are written by a grammar (`Url.IsServerAddress`): a scheme, `://`, a
user or none, a host, a port or none, and whatever starts with a character that
ends an authority; and a text is usable if what is left of it when it is cleaned
is written so.

The grammar leaves out literal network addresses, and with them all brackets,
and it does not know the characters outside of ASCII that are refused for their
looks. For the texts of ASCII without brackets it is the whole language
(`BaseUrl.isUsable_iff_isServerAddress`).
-/

namespace LocalServer

open Text

namespace Url

/-! ## What cleaning leaves -/

/-- **Cleaning a text**, seen from what it is made of: the blanks around it are
left out, then the characters up to `U+0020` before it, and then tabs and line
ends wherever they stand. -/
inductive CleansTo : List Char → List Char → Prop
  | intro {front controls rest back : List Char}
      (blankFront : ∀ c ∈ front, isBlank c = true) (blankBack : ∀ c ∈ back, isBlank c = true)
      (first : ∀ c ∈ (controls ++ rest).head?, isBlank c = false)
      (last : ∀ c ∈ (controls ++ rest).getLast?, isBlank c = false)
      (low : ∀ c ∈ controls, c.toNat ≤ 0x20) (high : ∀ c ∈ rest.head?, 0x20 < c.toNat) :
      CleansTo (front ++ (controls ++ rest ++ back))
        (rest.filter fun c => c ≠ '\t' ∧ c ≠ '\n' ∧ c ≠ '\r')

/-- What is kept is what is not deleted. -/
theorem filter_isDeleted (cs : List Char) :
    (cs.filter fun c => c ≠ '\t' ∧ c ≠ '\n' ∧ c ≠ '\r') = cs.filter fun c => !isDeleted c := by
  refine List.filter_congr fun c _ => ?_
  rw [Bool.eq_iff_iff]
  simp [isDeleted, and_assoc]

/-- A text between blanks is what is left when they are trimmed. -/
theorem trim_between {front core back : List Char} (blankFront : ∀ c ∈ front, isBlank c = true)
    (blankBack : ∀ c ∈ back, isBlank c = true) (first : ∀ c ∈ core.head?, isBlank c = false)
    (last : ∀ c ∈ core.getLast?, isBlank c = false) : trim (front ++ (core ++ back)) = core := by
  have hback : dropTrailing isBlank back = [] := by
    rw [dropTrailing, List.reverse_eq_nil_iff, List.dropWhile_eq_nil_iff]
    exact fun c hc => blankBack c (List.mem_reverse.mp hc)
  rw [trim, List.dropWhile_append_of_pos blankFront]
  cases core with
  | nil => rw [List.nil_append, List.dropWhile_eq_nil_iff.mpr blankBack, dropTrailing_nil]
  | cons c core =>
    rw [List.cons_append, List.dropWhile_cons_of_neg (by simp [first c rfl]), ← List.cons_append,
      dropTrailing_append, if_pos hback, dropTrailing_eq_self last]

/-- **What is left of a text when it is cleaned.** -/
theorem cleansTo_iff {raw cs : List Char} : CleansTo raw cs ↔ clean raw = cs := by
  constructor
  · rintro ⟨blankFront, blankBack, first, last, low, high⟩
    rw [clean, trim_between blankFront blankBack first last, filter_isDeleted,
      dropWhile_run (by simpa using low) (by simpa using high)]
  · rintro rfl
    obtain ⟨back, hback, hraw⟩ := exists_dropTrailing_append isBlank (raw.dropWhile isBlank)
    have hsplit := List.takeWhile_append_dropWhile (p := fun c => c.toNat ≤ 0x20) (l := trim raw)
    have h : CleansTo (raw.takeWhile isBlank ++ (trim raw ++ back)) (clean raw) := by
      rw [clean, ← filter_isDeleted]
      nth_rewrite 1 [← hsplit]
      refine .intro (fun c hc => List.mem_takeWhile_imp hc) hback ?_ ?_ ?_ ?_
      · rw [hsplit]
        exact fun c => isBlank_of_head?_trim
      · rw [hsplit]
        exact fun c => isBlank_of_getLast?_trim
      · exact fun c hc => by simpa using List.mem_takeWhile_imp hc
      · intro c hc
        have := List.head?_dropWhile_not (fun c : Char => decide (c.toNat ≤ 0x20)) (trim raw)
        rw [Option.mem_def.mp hc] at this
        simpa using this
    rwa [trim, hraw, List.takeWhile_append_dropWhile] at h

/-! ## The grammar -/

/-- **A port**: at most 4300 digits of ASCII, for a number up to 65535. No digits
at all are the absence of a port. -/
structure IsPort (text : List Char) : Prop where
  digits : ∀ c ∈ text, c.isDigit = true
  short : text.length ≤ 4300
  small : Nat.ofDigitChars 10 text 0 ≤ 65535

/-- **The part of an authority that names a server**: a host, which is not empty
and holds no colon, and perhaps a colon and a port. -/
inductive NamesServer : List Char → Prop
  | host {host : List Char} (nonempty : host ≠ []) (colon : ':' ∉ host) : NamesServer host
  | hostAndPort {host port : List Char} (nonempty : host ≠ []) (colon : ':' ∉ host)
      (isPort : IsPort port) : NamesServer (host ++ ':' :: port)

/-- **The grammar of base addresses.** A scheme is a letter and then letters,
digits and three marks; the user ends at the last `@` of the authority; and what
follows the authority starts with a character that cannot stand in it. -/
inductive IsServerAddress : List Char → Prop
  | intro {letter : Char} {scheme part tail : List Char} {user : Option (List Char)}
      (isLetter : letter.isAlpha = true)
      (inScheme : ∀ c ∈ scheme, c.isAlpha ∨ c.isDigit ∨ c = '+' ∨ c = '-' ∨ c = '.')
      (inAuthority : ∀ c ∈ withUser user part, c ≠ '/' ∧ c ≠ '?' ∧ c ≠ '#')
      (boundary : ∀ c ∈ tail.head?, c = '/' ∨ c = '?' ∨ c = '#')
      (lastAt : '@' ∉ part) (namesServer : NamesServer part) :
      IsServerAddress (letter :: scheme ++ ':' :: '/' :: '/' :: (withUser user part ++ tail))

/-! ## The reader knows the grammar -/

/-- **Which texts are read as a port**, or as the absence of one. -/
theorem readPort?_isSome_iff {text : List Char} :
    (readPort? text).isSome = true ↔ IsPort text := by
  unfold readPort?
  split
  · next hempty =>
    rw [List.isEmpty_iff.mp hempty]
    exact iff_of_true rfl ⟨by simp, by simp, by simp⟩
  · split
    · next hport =>
      simp only [Bool.and_eq_true, decide_eq_true_eq, List.all_eq_true] at hport
      exact iff_of_true rfl ⟨hport.1.1, hport.1.2, hport.2⟩
    · next hport =>
      refine iff_of_false Bool.false_ne_true fun h => hport ?_
      simp only [Bool.and_eq_true, decide_eq_true_eq, List.all_eq_true]
      exact ⟨⟨h.digits, h.short⟩, h.small⟩

/-- **The cut at the first colon** finds the host and the port. -/
theorem namesServer_iff {part : List Char} :
    NamesServer part ↔ (cutAt ':' part).1 ≠ [] ∧ IsPort (cutAt ':' part).2 := by
  constructor
  · rintro (⟨nonempty, colon⟩ | ⟨nonempty, colon, port⟩)
    · rw [cutAt_of_notMem colon]
      exact ⟨nonempty, by simp, by simp, by simp⟩
    · rw [cutAt_append_cons colon]
      exact ⟨nonempty, port⟩
  · rintro ⟨nonempty, port⟩
    by_cases hcolon : ':' ∈ part
    · rw [← append_cutAt hcolon]
      exact .hostAndPort nonempty (notMem_cutAt_fst _ _) port
    · rw [cutAt_of_notMem hcolon] at nonempty
      exact .host nonempty hcolon

variable {authority : List Char}

/-- **Without brackets** and without look-alikes, an authority is admissible if
and only if the part behind the user names a server. -/
theorem isAdmissible_iff_namesServer (hopen : '[' ∉ authority) (hclose : ']' ∉ authority)
    (hclear : ∀ c ∈ authority, hidesDelimiter c = false) :
    isAdmissible authority = true ↔ NamesServer (hostPart authority) := by
  have hbrackets : bracketsFit authority = true :=
    if_neg (not_or.mpr ⟨hopen, hclose⟩)
  have hcut : hostAndPort authority = cutAt ':' (hostPart authority) :=
    if_neg fun hc => hopen (mem_of_mem_afterLast hc)
  rw [isAdmissible_iff, namesServer_iff, ← readPort?_isSome_iff, ← hcut, Option.isSome_iff_exists,
    and_iff_right hbrackets, and_iff_right hclear]
  rfl

/-- A character ends an authority if it is one of three. -/
theorem endsAuthority_eq_true_iff {c : Char} :
    endsAuthority c = true ↔ c = '/' ∨ c = '?' ∨ c = '#' := by
  simp [endsAuthority, or_assoc]

theorem endsAuthority_eq_false_iff {c : Char} :
    endsAuthority c = false ↔ c ≠ '/' ∧ c ≠ '?' ∧ c ≠ '#' := by
  simp [endsAuthority, and_assoc]

theorem isSchemeChar_eq_true_iff {c : Char} :
    isSchemeChar c = true ↔ c.isAlpha ∨ c.isDigit ∨ c = '+' ∨ c = '-' ∨ c = '.' := by
  simp [isSchemeChar, Char.isAlphanum, or_assoc]

/-- **The grammar and the cut agree**: what the grammar writes is cut into an
address whose authority names a server, and nothing else is. -/
theorem isServerAddress_iff {cs : List Char} :
    IsServerAddress cs ↔ ∃ u, components? cs = some u ∧ NamesServer (hostPart u.authority) := by
  constructor
  · rintro @⟨letter, scheme, part, tail, user, hletter, hscheme, hauthority, htail, huser, hserver⟩
    let u : Url := ⟨(letter :: scheme).map Char.toLower, withUser user part, (splitTail tail).1,
      (splitTail tail).2.1, (splitTail tail).2.2⟩
    refine ⟨u, components?_eq_some_iff.mpr ⟨letter :: scheme, tail, rfl, ?_, rfl, ?_, ?_, rfl⟩, ?_⟩
    · rw [isScheme, hletter, Bool.true_and, List.all_eq_true]
      exact fun c hc => isSchemeChar_eq_true_iff.mpr (hscheme c hc)
    · exact fun c hc => endsAuthority_eq_false_iff.mpr (hauthority c hc)
    · exact fun c hc => endsAuthority_eq_true_iff.mpr (htail c hc)
    · show NamesServer (hostPart (withUser user part))
      rwa [hostPart_withUser user huser]
  · rintro ⟨u, hu, hserver⟩
    obtain ⟨scheme, tail, hcut⟩ := components?_eq_some_iff.mp hu
    have hscheme := hcut.isScheme
    rw [hcut.text]
    cases scheme with
    | nil => cases hscheme
    | cons letter scheme =>
      have hauthority := hcut.authority
      rw [← withUser_user? u.authority] at hauthority ⊢
      simp only [isScheme, Bool.and_eq_true, List.all_eq_true] at hscheme
      exact .intro hscheme.1 (fun c hc => isSchemeChar_eq_true_iff.mp (hscheme.2 c hc))
        (fun c hc => endsAuthority_eq_false_iff.mp (hauthority c hc))
        (fun c hc => endsAuthority_eq_true_iff.mp (hcut.boundary c hc))
        (notMem_afterLast '@' u.authority) hserver

end Url

namespace BaseUrl

open Url

/-- **Which texts can be used as a base address.** A text of ASCII without
brackets can be if and only if what is left of it when it is cleaned is written
by the grammar of base addresses. -/
theorem isUsable_iff_isServerAddress {raw : String} (hascii : ∀ c ∈ raw.toList, c.toNat < 0x80)
    (hopen : '[' ∉ raw.toList) (hclose : ']' ∉ raw.toList) :
    isUsable raw = true ↔ ∃ cs, CleansTo raw.toList cs ∧ IsServerAddress cs := by
  have hauthority : ∀ u, components? (clean raw.toList) = some u →
      (isAdmissible u.authority = true ↔ NamesServer (hostPart u.authority)) := by
    intro u hu
    obtain ⟨scheme, tail, hcut⟩ := components?_eq_some_iff.mp hu
    have hmem : ∀ c ∈ u.authority, c ∈ raw.toList := fun c hc =>
      (mem_of_mem_clean (hcut.mem_of_mem_authority hc)).1
    exact isAdmissible_iff_namesServer (fun hc => hopen (hmem _ hc)) (fun hc => hclose (hmem _ hc))
      fun c hc => hidesDelimiter_of_ascii (hascii c (hmem c hc))
  simp only [cleansTo_iff, exists_eq_left', isServerAddress_iff]
  rw [isUsable, split?, Option.isSome_filter, Option.any_eq_true]
  exact exists_congr fun u => and_congr_right (hauthority u)

/-- A text with a blank before it, a line end within it, a user and a port with a
needless zero. -/
theorem isUsable_iff_isServerAddress_of_user :
    let raw := " http://me:x@y@local\nhost:080?q"
    (∀ c ∈ raw.toList, c.toNat < 0x80) ∧ '[' ∉ raw.toList ∧ ']' ∉ raw.toList ∧
      isUsable raw = true ∧ ∃ cs, CleansTo raw.toList cs ∧ IsServerAddress cs := by
  intro raw
  have hascii : ∀ c ∈ raw.toList, c.toNat < 0x80 := by
    have table : raw.toList.all (fun c => decide (c.toNat < 0x80)) = true := by decide +kernel
    simpa only [List.all_eq_true, decide_eq_true_eq] using table
  have hopen : '[' ∉ raw.toList := by decide +kernel
  have hclose : ']' ∉ raw.toList := by decide +kernel
  have husable : isUsable raw = true := by decide +kernel
  exact ⟨hascii, hopen, hclose, husable,
    (isUsable_iff_isServerAddress hascii hopen hclose).mp husable⟩

end BaseUrl

end LocalServer
