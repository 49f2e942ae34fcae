import Receipt.Text.Quoted

/-!
# Hexadecimal text

Bytes are written as two lower case digits each and read from digits of either case.  A text of an
odd number of bytes is refused before its digits are looked at; otherwise the first byte that is no
digit is named with its position.
-/

set_option autoImplicit false

namespace Receipt.Text

/-- Why a text is not hexadecimal. -/
inductive HexFault where
  | oddLength
  | notADigit (byte : UInt8) (position : Nat)
  deriving DecidableEq, Repr

/-- The wording of a fault. -/
def HexFault.message : HexFault → String
  | oddLength => "Odd number of digits"
  | notADigit byte position =>
    "Invalid character " ++ quoteCharacter (Char.ofNat byte.toNat) ++ " at position " ++
      toString position

namespace Hex

/-- The lower case digit of a number below sixteen. -/
def digit (n : UInt8) : Char :=
  if n < 10 then Char.ofNat (48 + n.toNat) else Char.ofNat (87 + n.toNat)

/-- The number of a digit, given as an ASCII byte. -/
def value? (byte : UInt8) : Option UInt8 :=
  if 48 ≤ byte && byte ≤ 57 then some (byte - 48)
  else if 97 ≤ byte && byte ≤ 102 then some (byte - 87)
  else if 65 ≤ byte && byte ≤ 70 then some (byte - 55)
  else none

/-- The two digits of a byte. -/
def ofByte (byte : UInt8) : List Char :=
  [digit (byte / 16), digit (byte % 16)]

/-- The digits of a sequence of bytes. -/
def encode (bytes : List UInt8) : List Char :=
  bytes.flatMap ofByte

/-- Read pairs of digits, the first at `position`, behind the bytes already read, last one first. -/
def decodePairs (position : Nat) (done : List UInt8) :
    List UInt8 → Except HexFault (List UInt8)
  | high :: low :: rest =>
    match value? high, value? low with
    | some h, some l => decodePairs (position + 2) ((h * 16 + l) :: done) rest
    | none, _ => .error (.notADigit high position)
    | _, none => .error (.notADigit low (position + 1))
  | _ => .ok done.reverse

/-- Read the bytes that a text, given as bytes, writes in hexadecimal. -/
def decode (text : List UInt8) : Except HexFault (List UInt8) :=
  if text.length % 2 = 1 then .error .oddLength else decodePairs 0 [] text

end Hex

end Receipt.Text
