import Receipt.Barcode
import Receipt.Qr.Native
import Receipt.Raster.Strip
import Receipt.Style

/-!
# Commands

What a printer can be told, and the bytes that tell it.  Text is a command like any other: the bytes
of its characters in the table that was selected last.
-/

set_option autoImplicit false

namespace Receipt

namespace Setting

/-- The command that gives an attribute its value. -/
def bytes : Setting → List UInt8
  | size value => [0x1d, 0x21, value.code]
  | doubleStrike value => [0x1b, 0x47, value.code]
  | underline value => [0x1b, 0x2d, value.code]
  | weight value => [0x1b, 0x45, value.code]
  | color value => [0x1b, 0x72, value.code]
  | reverse value => [0x1d, 0x42, value.code]

end Setting

/-- What a printer can be told. -/
inductive Command where
  | reset
  | selectTable (id : UInt8)
  | set (change : Setting)
  | justify (alignment : Alignment)
  | text (body : List UInt8)
  | lineFeed
  | lineSpacing (dots : UInt8)
  | feed (dots : Nat)
  | raster (image : Raster)
  | strip (part : Strip)
  | barcode (code : Barcode)
  | qr (model : Qr.Model) (content : List Char) (moduleSize : Int)
  | cut
  | openDrawer
  deriving DecidableEq

namespace Command

/-- The bytes of a command.  Of a feed only the low byte is sent. -/
def bytes : Command → List UInt8
  | reset => [0x1b, 0x40]
  | selectTable id => [0x1b, 0x74, id]
  | set change => change.bytes
  | justify alignment => [0x1b, 0x61, alignment.code]
  | text body => body
  | lineFeed => [0x0a]
  | lineSpacing dots => [0x1b, 0x33, dots]
  | feed dots => [0x1b, 0x4a, UInt8.ofNat dots]
  | raster image => image.toEnvelope
  | strip part => part.bytes
  | barcode code => code.bytes
  | qr model content moduleSize => Qr.Native.symbol model content moduleSize
  | cut => [0x1d, 0x56, 0x01]
  | openDrawer => [0x1b, 0x70, 0x00, 0x3c, 0xff]

/-- The line spacing that leaves no gap between strips. -/
def stripSpacing : Command :=
  lineSpacing 24

/-- The line spacing of text. -/
def textSpacing : Command :=
  lineSpacing 30

end Command

end Receipt
