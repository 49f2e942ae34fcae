import Receipt.CodePage.Upper

/-!
# The code pages by name

The pages, the name of each and its table.  A single-byte page has a table of its upper half; the
Unicode pages and the replacement page have none.  There are no pages of several bytes for a
character other than the Unicode ones.
-/

set_option autoImplicit false

namespace Receipt

/-- The pages that text can be written in. -/
inductive CodePage where
  | ibm437
  | ibm866
  | iso8859Part2
  | iso8859Part3
  | iso8859Part4
  | iso8859Part5
  | iso8859Part6
  | iso8859Part7
  | iso8859Part8
  | iso8859Part8Implicit
  | iso8859Part10
  | iso8859Part13
  | iso8859Part14
  | iso8859Part15
  | iso8859Part16
  | koi8R
  | koi8U
  | macRoman
  | macCyrillic
  | windows874
  | windows1250
  | windows1251
  | windows1252
  | windows1253
  | windows1254
  | windows1255
  | windows1256
  | windows1257
  | windows1258
  | userDefined
  | utf8
  | utf16Le
  | utf16Be
  | replacement
  deriving DecidableEq, Repr

namespace CodePage

/-- The name of a page. -/
def name : CodePage → String
  | ibm437 => "IBM437"
  | ibm866 => "IBM866"
  | iso8859Part2 => "ISO-8859-2"
  | iso8859Part3 => "ISO-8859-3"
  | iso8859Part4 => "ISO-8859-4"
  | iso8859Part5 => "ISO-8859-5"
  | iso8859Part6 => "ISO-8859-6"
  | iso8859Part7 => "ISO-8859-7"
  | iso8859Part8 => "ISO-8859-8"
  | iso8859Part8Implicit => "ISO-8859-8-I"
  | iso8859Part10 => "ISO-8859-10"
  | iso8859Part13 => "ISO-8859-13"
  | iso8859Part14 => "ISO-8859-14"
  | iso8859Part15 => "ISO-8859-15"
  | iso8859Part16 => "ISO-8859-16"
  | koi8R => "KOI8-R"
  | koi8U => "KOI8-U"
  | macRoman => "macintosh"
  | macCyrillic => "x-mac-cyrillic"
  | windows874 => "windows-874"
  | windows1250 => "windows-1250"
  | windows1251 => "windows-1251"
  | windows1252 => "windows-1252"
  | windows1253 => "windows-1253"
  | windows1254 => "windows-1254"
  | windows1255 => "windows-1255"
  | windows1256 => "windows-1256"
  | windows1257 => "windows-1257"
  | windows1258 => "windows-1258"
  | userDefined => "x-user-defined"
  | utf8 => "UTF-8"
  | utf16Le => "UTF-16LE"
  | utf16Be => "UTF-16BE"
  | replacement => "replacement"

/-- The upper half of a single-byte page; the Unicode pages have none.  The two Hebrew pages of
ISO 8859 differ in the direction of writing alone. -/
def upper? : CodePage → Option (List Nat)
  | ibm437 => some Upper.ibm437
  | ibm866 => some Upper.ibm866
  | iso8859Part2 => some Upper.iso8859Part2
  | iso8859Part3 => some Upper.iso8859Part3
  | iso8859Part4 => some Upper.iso8859Part4
  | iso8859Part5 => some Upper.iso8859Part5
  | iso8859Part6 => some Upper.iso8859Part6
  | iso8859Part7 => some Upper.iso8859Part7
  | iso8859Part8 => some Upper.iso8859Part8
  | iso8859Part8Implicit => some Upper.iso8859Part8
  | iso8859Part10 => some Upper.iso8859Part10
  | iso8859Part13 => some Upper.iso8859Part13
  | iso8859Part14 => some Upper.iso8859Part14
  | iso8859Part15 => some Upper.iso8859Part15
  | iso8859Part16 => some Upper.iso8859Part16
  | koi8R => some Upper.koi8R
  | koi8U => some Upper.koi8U
  | macRoman => some Upper.macRoman
  | macCyrillic => some Upper.macCyrillic
  | windows874 => some Upper.windows874
  | windows1250 => some Upper.windows1250
  | windows1251 => some Upper.windows1251
  | windows1252 => some Upper.windows1252
  | windows1253 => some Upper.windows1253
  | windows1254 => some Upper.windows1254
  | windows1255 => some Upper.windows1255
  | windows1256 => some Upper.windows1256
  | windows1257 => some Upper.windows1257
  | windows1258 => some Upper.windows1258
  | userDefined => some Upper.userDefined
  | utf8 => none
  | utf16Le => none
  | utf16Be => none
  | replacement => none

end CodePage

end Receipt
