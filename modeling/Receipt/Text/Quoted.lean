import Receipt.Text.Quoted.Glyphless

/-!
# Quoted text

How a message quotes a text or a character: between quotes, with escapes for the quote itself, the
backslash, the common control characters, and by code point in hexadecimal for every other character
without a glyph of its own.
-/

set_option autoImplicit false

namespace Receipt.Text

namespace Quoted

/-- The escape of a character by its code point. -/
def codePoint (c : Char) : List Char :=
  ['\\', 'u', Char.ofNat 0x7b] ++ Nat.toDigits 16 c.toNat ++ [Char.ofNat 0x7d]

/-- A character as it stands between two quotes `mark`. -/
def character (mark : Char) (c : Char) : List Char :=
  if c = mark || c = '\\' then ['\\', c]
  else if c = '\t' then ['\\', 't']
  else if c = '\r' then ['\\', 'r']
  else if c = '\n' then ['\\', 'n']
  else if c.toNat = 0 then ['\\', '0']
  else if isGlyphless c then codePoint c
  else [c]

end Quoted

/-- A text between double quotes. -/
def quoteText (text : List Char) : String :=
  String.ofList ('"' :: (text.flatMap (Quoted.character '"') ++ ['"']))

/-- A character between single quotes. -/
def quoteCharacter (c : Char) : String :=
  let mark := Char.ofNat 39
  String.ofList (mark :: (Quoted.character mark c ++ [mark]))

end Receipt.Text
