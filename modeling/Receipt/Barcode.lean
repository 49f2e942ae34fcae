import Receipt.Barcode.CheckDigit
import Receipt.Barcode.Symbology
import Receipt.Bytes
import Receipt.Profile

/-!
# Bar codes

A bar code is a completed code together with the sizes it is printed in.  The width of a module is
chosen so that the whole code comes as close as possible to a target, which is seven tenths of the
paper unless a width is given, and never exceeds the paper.
-/

set_option autoImplicit false

namespace Receipt

/-- Where the code stands in readable characters. -/
inductive TextPosition where
  | hidden
  | above
  | below
  deriving DecidableEq, Repr, Inhabited

namespace TextPosition

/-- The printer's code. -/
def code : TextPosition → UInt8
  | hidden => 0
  | above => 1
  | below => 2

/-- The position that an attribute names; any other name leaves the code below. -/
def ofName (name : List Char) : TextPosition :=
  if name = "none".toList then hidden
  else if name = "above".toList then above
  else below

end TextPosition

/-- A completed code with its sizes in dots. -/
structure Barcode where
  symbology : Symbology
  code : List Char
  textPosition : TextPosition
  moduleWidth : Nat
  height : Int
  deriving DecidableEq, Repr

namespace Barcode

/-- The code as it is printed: cut to its length and completed, if its form asks for it. -/
def completeCode (form : CodeForm) (code : List Char) : Except Failure (List Char) :=
  match form with
  | .checked length =>
    if code.length < length - 1 then .error (.barcode .tooShort)
    else
      let payload := code.take (length - 1)
      match checkDigit payload with
      | .ok digit => .ok (payload ++ [digit])
      | .error failure => .error failure
  | .digits length =>
    if code.length < length then .error (.barcode .tooShort)
    else
      let kept := code.take length
      if kept.all Char.isDigit then .ok kept else .error (.barcode .notNumeric)
  | .ascii =>
    if code.all (fun c => c.toNat < 128) then .ok code
    else .error (.barcode (.notAscii code))

/-- The share of the paper that a bar code without a width takes. -/
def defaultShare : Number.Single :=
  Number.Single.ofRatio 7 10

/-- The dots that a bar code shall span: those of its width, at most those of the paper. -/
def targetPx (profile : Profile) (widthMm : Number.Single) : Int :=
  let target := if widthMm.isZero then profile.widthMm.mul defaultShare else widthMm
  if Number.Binary.lt profile.widthMm target then profile.widthPx else profile.mmToPx target

/-- The width of a module for a code of so many modules: the target shared among them, a half going
up, and one dot less if that would exceed the paper. -/
def fitModule (profile : Profile) (widthMm : Number.Single) (modules : Nat) :
    Except Failure Nat :=
  let target := targetPx profile widthMm
  let nearest := (2 * target + modules) / (2 * modules)
  let fitting := if (profile.widthPx : Int) < nearest * modules then nearest - 1 else nearest
  if fitting ≤ 0 then .error (.barcode .tooLongForPaper) else .ok fitting.toNat

/-- The bar code of a code on a printer, with its width and height in millimetres. -/
def make (profile : Profile) (symbology : Symbology) (code : List Char)
    (widthMm heightMm : Number.Single) (textPosition : TextPosition) : Except Failure Barcode :=
  match completeCode symbology.form code with
  | .error failure => .error failure
  | .ok completed =>
    match fitModule profile widthMm (symbology.modules completed.length) with
    | .error failure => .error failure
    | .ok moduleWidth =>
      .ok ⟨symbology, completed, textPosition, moduleWidth, profile.mmToPx heightMm⟩

/-- The commands that print a bar code: where its text stands, the width of a module, the height,
and the code itself behind its type and length. -/
def bytes (barcode : Barcode) : List UInt8 :=
  [0x1d, 0x48, barcode.textPosition.code] ++
    [0x1d, 0x77, UInt8.ofNat barcode.moduleWidth] ++
    [0x1d, 0x68, Bytes.lowByte barcode.height] ++
    [0x1d, 0x6b, barcode.symbology.typeCode, UInt8.ofNat barcode.code.length] ++
    Bytes.ofText barcode.code

end Barcode

end Receipt
