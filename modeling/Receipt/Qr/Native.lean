import Receipt.Bytes

/-!
# QR symbols drawn by the printer

A printer with QR symbols of its own is sent the text and how to draw it, in five blocks.  A block
is a mark, the length of its body as a word, and the body.
-/

set_option autoImplicit false

namespace Receipt.Qr

/-- The two kinds of symbols that a printer draws. -/
inductive Model where
  | one
  | two
  deriving DecidableEq, Repr, Inhabited

namespace Model

/-- The printer's code. -/
def code : Model → UInt8
  | one => 49
  | two => 50

end Model

namespace Native

/-- A block: its mark, the length of its body and the body. -/
def block (body : List UInt8) : List UInt8 :=
  [0x1d, 0x28, 0x6b] ++ Bytes.word body.length ++ body

/-- Choose the kind of symbol. -/
def selectModel (model : Model) : List UInt8 :=
  block [0x31, 0x41, model.code, 0x00]

/-- The dots of a module's side that the printer accepts. -/
def clampSize (size : Int) : Int :=
  max 1 (min 16 size)

/-- Set the dots of a module's side. -/
def setModuleSize (size : Int) : List UInt8 :=
  block [0x31, 0x43, Bytes.lowByte (clampSize size)]

/-- Choose the lowest level of error correction. -/
def setCorrection : List UInt8 :=
  block [0x31, 0x45, 0x30]

/-- Store the data of the symbol. -/
def store (data : List UInt8) : List UInt8 :=
  block ([0x31, 0x50, 0x30] ++ data)

/-- Print the stored symbol. -/
def print : List UInt8 :=
  block [0x31, 0x51, 0x30]

/-- The blocks that print a text as a symbol. -/
def symbol (model : Model) (text : List Char) (moduleSize : Int) : List UInt8 :=
  selectModel model ++ setModuleSize moduleSize ++ setCorrection ++
    store (Bytes.ofText text) ++ print

end Native

end Receipt.Qr
