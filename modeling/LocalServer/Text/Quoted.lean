import LocalServer.Text.Printable

/-!
# Quoted text

A text that came from outside is shown in quotes, so that blanks at its
ends and characters that cannot be seen do show. The quotes are single
ones, or double ones when that saves escaping: the text then holds a single
quote and no double one. Inside, a backslash and the quote itself are
escaped by a backslash, and so are tab, line feed and carriage return, as
letters; other characters that cannot be shown are written by their number.
-/

namespace LocalServer.Text

/-- The number of a character in hexadecimal digits, of at least the given
width. -/
def hexNumber (width : Nat) (c : Char) : List Char :=
  let digits := Nat.toDigits 16 c.toNat
  List.replicate (width - digits.length) '0' ++ digits

/-- The escape of a character by its number: two, four or eight digits. -/
def numberEscape (c : Char) : List Char :=
  if c.toNat < 0x100 then '\\' :: 'x' :: hexNumber 2 c
  else if c.toNat < 0x10000 then '\\' :: 'u' :: hexNumber 4 c
  else '\\' :: 'U' :: hexNumber 8 c

/-- **One character inside quotes.** -/
def escaped (mark c : Char) : List Char :=
  if c = mark ∨ c = '\\' then ['\\', c]
  else if c = '\t' then ['\\', 't']
  else if c = '\n' then ['\\', 'n']
  else if c = '\r' then ['\\', 'r']
  else if isPrintable c then [c]
  else numberEscape c

/-- The single quote. -/
def singleQuote : Char := '\x27'

/-- The double quote. -/
def doubleQuote : Char := '\x22'

/-- The quote a text is shown in. -/
def quoteFor (cs : List Char) : Char :=
  if singleQuote ∈ cs ∧ doubleQuote ∉ cs then doubleQuote else singleQuote

/-- **A text in quotes.** -/
def quoted (s : String) : String :=
  let mark := quoteFor s.toList
  String.ofList (mark :: s.toList.flatMap (escaped mark) ++ [mark])

/-- Several texts in quotes, separated by commas. -/
def quotedAll (ss : List String) : String :=
  ", ".intercalate (ss.map quoted)

/-- A character that can be shown, and is neither the quote nor a
backslash, stands for itself. -/
theorem escaped_of_isPrintable {mark c : Char} (h : isPrintable c = true) (hm : c ≠ mark)
    (hb : c ≠ '\\') : escaped mark c = [c] := by
  have ht : c ≠ '\t' := by rintro rfl; exact absurd h (by decide +kernel)
  have hn : c ≠ '\n' := by rintro rfl; exact absurd h (by decide +kernel)
  have hr : c ≠ '\r' := by rintro rfl; exact absurd h (by decide +kernel)
  simp [escaped, h, hm, hb, ht, hn, hr]

end LocalServer.Text
