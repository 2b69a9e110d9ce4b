import LocalServer.Text.CharacterNameTable
import LocalServer.Text.Cut
import LocalServer.Text.HexDigit

/-!
# Names of characters

Every character of the Unicode standard, here in version 14, that is more
than a code for control has a **name**, such as `BULLET` or `LATIN SMALL
LETTER A`; some have other names besides. A rule makes the names of whole
blocks: a syllable of Hangul is named after its sounds, and most ideographs
after their numbers. All other names are in an outline.

Only whether a text is a name matters here. In the names of syllables and of
unified ideographs all letters are capitals; in other names the case of
letters does not count.
-/

namespace LocalServer.Text

/-- **What stands behind a word** that a text starts with. -/
def behind? (word : String) (cs : List Char) : Option (List Char) :=
  if word.toList.isPrefixOf cs then some (cs.drop word.toList.length) else none

/-- The word and what stands behind it are the whole text. -/
theorem behind?_eq_some_iff {word : String} {cs rest : List Char} :
    behind? word cs = some rest ↔ word.toList ++ rest = cs := by
  simp only [behind?, Option.ite_none_right_eq_some, Option.some.injEq, List.isPrefixOf_iff_prefix]
  constructor
  · rintro ⟨⟨t, rfl⟩, rfl⟩
    simp
  · rintro rfl
    simp

/-! ## Names that a rule makes -/

/-- The sounds that a syllable starts with. -/
def initialSounds : List String :=
  ["G", "GG", "N", "D", "DD", "R", "M", "B", "BB", "S", "SS", "", "J", "JJ", "C", "K", "T", "P",
   "H"]

/-- The sounds in the middle of a syllable. -/
def middleSounds : List String :=
  ["A", "AE", "YA", "YAE", "EO", "E", "YEO", "YE", "O", "WA", "WAE", "OE", "YO", "U", "WEO", "WE",
   "WI", "YU", "EU", "YI", "I"]

/-- The sounds that a syllable ends with. -/
def finalSounds : List String :=
  ["", "G", "GG", "GS", "N", "NJ", "NH", "D", "L", "LG", "LM", "LB", "LS", "LT", "LP", "LH", "M",
   "B", "BS", "S", "SS", "NG", "J", "C", "K", "T", "P", "H"]

/-- Whether a text is made of one word from each list, in their order. -/
def isJoined : List (List String) → List Char → Bool
  | [], cs => cs.isEmpty
  | words :: lists, cs =>
    words.any fun word => (behind? word cs).any (isJoined lists)

/-- A text is made of words if it is one of the first list and a text that
is made of words of the others. -/
theorem isJoined_cons_iff {words : List String} {lists : List (List String)} {cs : List Char} :
    isJoined (words :: lists) cs = true ↔
      ∃ word ∈ words, ∃ rest, word.toList ++ rest = cs ∧ isJoined lists rest = true := by
  simp [isJoined, Option.any_eq_true, behind?_eq_some_iff]

/-- The name of a syllable of Hangul. -/
def isSyllableName (name : List Char) : Bool :=
  (behind? "HANGUL SYLLABLE " name).any
    (isJoined [initialSounds, middleSounds, finalSounds])

/-- Whether digits write the number of a character in one of some rows of
characters. -/
def isNumberIn (rows : List (Nat × Nat)) (digits : List Char) : Bool :=
  (digits.length == 4 || digits.length == 5)
    && digits.all (fun c => isHexDigit c && !c.isLower)
    && rows.any fun (first, last) =>
      first ≤ numberInBase 16 digits && numberInBase 16 digits ≤ last

/-- The rows of unified ideographs. -/
def unifiedIdeographs : List (Nat × Nat) :=
  [(0x3400, 0x4dbf), (0x4e00, 0x9fff), (0x20000, 0x2a6df), (0x2a700, 0x2b738), (0x2b740, 0x2b81d),
   (0x2b820, 0x2cea1), (0x2ceb0, 0x2ebe0), (0x30000, 0x3134a)]

/-- The name of a unified ideograph. A zero may stand before a number of
four digits. -/
def isUnifiedName (name : List Char) : Bool :=
  (behind? "CJK UNIFIED IDEOGRAPH-" name).any (isNumberIn unifiedIdeographs)

/-- The other names that end in numbers: what stands before the number, and
the rows of characters. -/
def numberedNames : List (String × List (Nat × Nat)) :=
  [("CJK COMPATIBILITY IDEOGRAPH-", [(0xf900, 0xfa6d), (0xfa70, 0xfad9), (0x2f800, 0x2fa1d)]),
   ("KHITAN SMALL SCRIPT CHARACTER-", [(0x18b00, 0x18cd5)]),
   ("NUSHU CHARACTER-", [(0x1b170, 0x1b2fb)])]

/-- A name, in capital letters, that ends in the number of its character. -/
def isNumberedName (name : List Char) : Bool :=
  numberedNames.any fun (front, rows) =>
    (behind? front name).any fun digits =>
      digits.head? != some '0' && isNumberIn rows digits

/-! ## Names in an outline -/

/-- **A word of an outline.** -/
structure OutlineWord where
  /-- The number of words before it in a name. -/
  depth : Nat
  /-- The word. -/
  word : List Char
  /-- Whether a name ends with it. -/
  endsName : Bool
deriving DecidableEq, Repr

/-- The word that is written as a letter for its depth, `a` for none, then
its characters, and a colon if no name ends with it. -/
def OutlineWord.ofChars? : List Char → Option OutlineWord
  | [] => none
  | c :: cs =>
    if cs.getLast? = some ':' then some ⟨c.toNat - 'a'.toNat, cs.dropLast, false⟩
    else some ⟨c.toNat - 'a'.toNat, cs, true⟩

/-- The words of a line of an outline. -/
def outlineWords (line : String) : List OutlineWord :=
  (pieces ' ' line.toList).filterMap OutlineWord.ofChars?

/-- **The search for a name** in an outline. -/
structure NameSearch where
  /-- How many of its words the last words of the outline have in common
  with the name. -/
  shared : Nat
  /-- Whether the name has been found. -/
  found : Bool
deriving DecidableEq, Repr

/-- The search after one more word of the outline. -/
def NameSearch.step (name : List (List Char)) (s : NameSearch) (w : OutlineWord) : NameSearch :=
  if s.shared < w.depth then s
  else if name[w.depth]? = some w.word then
    ⟨w.depth + 1, s.found || (w.endsName && w.depth + 1 == name.length)⟩
  else { s with shared := w.depth }

/-- What has been found stays found. -/
theorem NameSearch.found_step {name : List (List Char)} {s : NameSearch} (h : s.found = true)
    (w : OutlineWord) : (s.step name w).found = true := by
  grind [NameSearch.step]

/-- Whether an outline holds a name. -/
def isInOutline (outline : List String) (name : List (List Char)) : Bool :=
  (outline.foldl (fun s line => (outlineWords line).foldl (NameSearch.step name) s) ⟨0, false⟩).found

/-- **Whether a text is the name of a character.** -/
def isCharacterName (name : List Char) : Bool :=
  let capitals := name.map Char.toUpper
  isSyllableName name || isUnifiedName name || isNumberedName capitals
    || isInOutline characterNameTable (pieces ' ' capitals)

end LocalServer.Text
