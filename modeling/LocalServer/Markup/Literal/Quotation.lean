import LocalServer.Text.CharacterName
import LocalServer.Text.HexDigit

/-!
# The quoted texts of a literal

A quoted text ends at the quote that it starts with, or at three of them if
it starts with three; then it may go over several lines. Letters before the
first quote say whether it is a row of bytes, and whether a backslash is
just a character. Where it is not, it and what follows stand for one
character: a quote, or one that is given by its number or by its name.
-/

namespace LocalServer.Markup.Literal

open Text

/-- **The way a text is quoted.** -/
structure Quotation where
  /-- Whether it is a row of bytes. -/
  bytes : Bool
  /-- Whether a backslash is just a character. -/
  raw : Bool
deriving DecidableEq, Repr

/-- The way that letters before the first quote ask for. -/
def Quotation.ofLetters? (cs : List Char) : Option Quotation :=
  match cs.map Char.toLower with
  | [] | ['u'] => some ⟨false, false⟩
  | ['r'] => some ⟨false, true⟩
  | ['b'] => some ⟨true, false⟩
  | ['b', 'r'] | ['r', 'b'] => some ⟨true, true⟩
  | _ => none

/-- Whether a character is a quote. -/
def isQuote (c : Char) : Bool :=
  c == '\x27' || c == '\x22'

/-- The first hexadecimal digits of a text, if there are so many. -/
def hexDigits? (count : Nat) (cs : List Char) : Option (List Char) :=
  let ds := cs.take count
  if ds.length = count && ds.all isHexDigit then some ds else none

/-- The greatest number of a character. -/
def lastCharacter : Nat := 0x10ffff

/-- Whether a text starts with the name of a character in curly brackets. -/
def namesCharacter : List Char → Bool
  | '\x7b' :: cs =>
    cs.contains '\x7d' && isCharacterName (cs.takeWhile (· ≠ '\x7d'))
  | _ => false

/-- Whether a backslash and `c` before a text stand for something. -/
def isEscape (way : Quotation) (c : Char) (cs : List Char) : Bool :=
  way.raw || match c with
    | 'x' => (hexDigits? 2 cs).isSome
    | 'u' => way.bytes || (hexDigits? 4 cs).isSome
    | 'U' => way.bytes || (hexDigits? 8 cs).any fun ds => numberInBase 16 ds ≤ lastCharacter
    | 'N' => way.bytes || namesCharacter cs
    | _ => true

/-- Whether a character may stand between the quotes. -/
def Quotation.allows (way : Quotation) (c : Char) : Bool :=
  !way.bytes || c.toNat < 0x80

/-- The count of characters up to the end of a quoted text, with the quotes
at its end. -/
def lengthToEnd? (way : Quotation) (quotes : List Char) : List Char → Option Nat
  | [] => none
  | c :: cs =>
    if quotes.isPrefixOf (c :: cs) then some quotes.length
    else if !way.allows c || (c == '\n' && quotes.length == 1) then none
    else if c = '\\' then
      match cs with
      | [] => none
      | d :: cs =>
        if way.allows d && isEscape way d cs then (lengthToEnd? way quotes cs).map (· + 2)
        else none
    else (lengthToEnd? way quotes cs).map (· + 1)

/-- The count of characters of a quoted text, the first quote not
counted. -/
def quotedLength? (way : Quotation) (quote : Char) (cs : List Char) : Option Nat :=
  if [quote, quote].isPrefixOf cs then
    (lengthToEnd? way [quote, quote, quote] (cs.drop 2)).map (· + 2)
  else lengthToEnd? way [quote] cs

end LocalServer.Markup.Literal
