import Receipt.Failure
import Receipt.Picture

/-!
# Portable pixel maps

A binary pixel map is the mark `P6`, the width, the height and the greatest channel value in decimal
notation with blanks before each, one blank, and the channels of the colours in rows.  A comment
runs from a `#` through the end of its line and counts as nothing, inside a number too.
-/

set_option autoImplicit false

namespace Receipt.Picture.Ppm

/-- Whether a byte is a blank. -/
def isBlankByte (byte : UInt8) : Bool :=
  byte == 32 || (9 ≤ byte && byte ≤ 13)

/-- Whether a byte ends a line, and with it a comment. -/
def isLineEnd (byte : UInt8) : Bool :=
  byte == 10 || byte == 13

/-- Whether a byte is a decimal digit. -/
def isDigitByte (byte : UInt8) : Bool :=
  48 ≤ byte && byte ≤ 57

/-- Read a number of at most 32 bits, and the blank that ends it, behind the digits already read and
perhaps in a comment. -/
def readNumber (inComment : Bool) (value : Option Nat) :
    List UInt8 → Except PictureFault (Nat × List UInt8)
  | [] =>
    match value with
    | some number => .ok (number, [])
    | none => .error .noNumber
  | byte :: rest =>
    if inComment then readNumber (!isLineEnd byte) value rest
    else if byte == 35 then readNumber true value rest
    else if isBlankByte byte then
      match value with
      | some number => .ok (number, rest)
      | none => readNumber false none rest
    else if 128 ≤ byte then .error (.pixelMap (.notAscii byte))
    else if isDigitByte byte then
      let next := 10 * value.getD 0 + (byte.toNat - 48)
      if next ≤ 4294967295 then readNumber false (some next) rest
      else .error (.pixelMap .numberTooLarge)
    else .error (.pixelMap .badDigit)

/-- What a pixel map says before its channels. -/
structure Header where
  width : Nat
  height : Nat
  greatest : Nat
  deriving DecidableEq, Repr

/-- Read the mark and the numbers in front of the channels. -/
def readHeader : List UInt8 → Except PictureFault (Header × List UInt8)
  | first :: second :: body =>
    if first == 0x50 && second == 0x36 then do
      let (width, afterWidth) ← readNumber false none body
      let (height, afterHeight) ← readNumber false none afterWidth
      let (greatest, channels) ← readNumber false none afterHeight
      pure (⟨width, height, greatest⟩, channels)
    else .error (.pixelMap (.badMark first second))
  | _ => .error .tooShort

namespace Header

/-- The number of channels of a picture. -/
def channels (header : Header) : Nat :=
  3 * (header.width * header.height)

/-- Why a picture cannot be made, whatever its channels: a channel value of no use, more channels
than 64 bits can count, or more of them than half a gibibyte holds. -/
def fault? (header : Header) : Option PictureFault :=
  if header.greatest = 0 then some (.pixelMap .noMaximum)
  else if 65535 < header.greatest then some (.pixelMap (.maximumTooLarge header.greatest))
  else if 18446744073709551615 < header.channels then
    some (.tooManyColors header.width header.height)
  else if 536870912 < header.channels then some .tooManyBytes
  else if header.greatest = 255 then none
  else some (.otherMaximum header.greatest)

end Header

/-- The colours of channels in threes. -/
def colorsOf (channels : Array UInt8) (count : Nat) : Array Color :=
  Array.ofFn (fun i : Fin count =>
    ⟨channels.getD (3 * i.val) 0, channels.getD (3 * i.val + 1) 0,
      channels.getD (3 * i.val + 2) 0⟩)

/-- The picture of a pixel map with one byte to a channel.  Bytes behind the channels are
ignored. -/
def decode (bytes : List UInt8) : Except PictureFault Picture := do
  let (header, body) ← readHeader bytes
  match header.fault? with
  | some fault => .error fault
  | none =>
    let channels := (body.take header.channels).toArray
    if channels.size < header.channels then .error .tooShort
    else
      pure ⟨header.width, header.height, colorsOf channels (header.width * header.height),
        Array.size_ofFn⟩

end Receipt.Picture.Ppm
