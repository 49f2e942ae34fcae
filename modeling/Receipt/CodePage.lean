import Receipt.Bytes
import Receipt.CodePage.Label
import Receipt.Failure
import Receipt.Text.Blank

/-!
# Code pages

A code page turns characters into bytes.  The single-byte pages have ASCII below and a table of 128
characters above; the Unicode pages all write UTF-8.  The pages that write a character of theirs as
several bytes, GBK, gb18030, Big5, EUC-JP, ISO-2022-JP, Shift_JIS and EUC-KR, are left out, and a
profile that asks for one of them is refused as if it asked for no page at all.  A charset is a page
together with the number by which the printer selects its own table for it.
-/

set_option autoImplicit false

namespace Receipt

namespace CodePage

/-- The byte of a character in a table whose first byte is 0x80.  An unused byte has 0 there, which
is no character of an upper half. -/
def tableByte? (table : List Nat) (c : Char) : Option UInt8 :=
  (table.idxOf? c.toNat).map (fun i => UInt8.ofNat (128 + i))

/-- The byte of a character on a page with such a table. -/
def singleByte? (table : List Nat) (c : Char) : Option UInt8 :=
  if c.toNat < 128 then some (UInt8.ofNat c.toNat) else tableByte? table c

/-- The bytes of one character. -/
def encodeChar? (page : CodePage) (c : Char) : Option (List UInt8) :=
  match page.upper? with
  | none => some (String.utf8EncodeChar c)
  | some table => (singleByte? table c).map (fun byte => [byte])

/-- The bytes of a text on a page with such a table, behind the bytes already written, last one
first, or the first character that the page lacks. -/
def singleBytes (table : List Nat) (done : List UInt8) : List Char → Except Char (List UInt8)
  | [] => .ok done.reverse
  | c :: rest =>
    match singleByte? table c with
    | some byte => singleBytes table (byte :: done) rest
    | none => .error c

/-- The bytes of a text, or the first character that the page lacks. -/
def encodeText (page : CodePage) (text : List Char) : Except Char (List UInt8) :=
  match page.upper? with
  | none => .ok (Bytes.ofText text)
  | some table => singleBytes table [] text

/-- Whether a refusal names the character that the page lacks. -/
def namesCulprit : CodePage → Bool
  | ibm437 => true
  | _ => false

/-- The bytes of a text. -/
def encode (page : CodePage) (text : List Char) : Except Failure (List UInt8) :=
  match page.encodeText text with
  | .ok bytes => .ok bytes
  | .error culprit =>
    let named := if page.namesCulprit then some culprit else none
    .error (.encoding (.unrepresentable text page.name named))

end CodePage

/-- A page and the number of the printer's own table for it. -/
structure Charset where
  page : CodePage
  id : UInt8
  deriving DecidableEq, Repr

namespace Charset

/-- The charset of a printer that was given none. -/
def standard : Charset :=
  ⟨.windows1252, 6⟩

/-- The charset of a label, blanks around it being ignored. -/
def ofLabel (label : List Char) (id : UInt8) : Except Failure Charset :=
  let label := Text.trim label
  match CodePage.ofLabel? label with
  | some page => .ok ⟨page, id⟩
  | none => .error (.profile (.unknownCharset label))

/-- The bytes of a text. -/
def encode (charset : Charset) (text : List Char) : Except Failure (List UInt8) :=
  charset.page.encode text

end Charset

end Receipt
