import Receipt.Barcode
import Receipt.Markup.Tag
import Receipt.Qr.Matrix
import Receipt.Raster.Strip
import Receipt.Style

/-!
# Elements

An element is what a column prints: a run of text in one style, an image moved into place, a QR
symbol as an image, or a bar code.  Its width in characters is known once it is built; a run of text
can be built only if the charset has all of its characters.
-/

set_option autoImplicit false

namespace Receipt.Markup

/-- Text in one style with its width in characters. -/
structure TextRun where
  text : List Char
  style : TextStyle
  width : Nat
  deriving DecidableEq, Repr

/-- An image moved into place with its width in characters before that. -/
structure PlacedImage where
  image : Raster
  width : Nat
  deriving DecidableEq

/-- A bar code with its alignment and its width in characters. -/
structure PlacedBarcode where
  barcode : Barcode
  alignment : Alignment
  width : Nat
  deriving DecidableEq, Repr

/-- What a column prints.  A QR symbol keeps the text it was made from. -/
inductive Element where
  | text (run : TextRun)
  | image (placed : PlacedImage)
  | qr (payload : List Char) (placed : PlacedImage)
  | barcode (placed : PlacedBarcode)
  deriving DecidableEq

namespace Element

/-- The width in characters. -/
def width : Element → Nat
  | text run => run.width
  | image placed => placed.width
  | qr _ placed => placed.width
  | barcode placed => placed.width

/-- Whether an element is a run of text. -/
def isText : Element → Bool
  | text _ => true
  | _ => false

end Element

/-- The run of a text in a style, each of its bytes taking the width of the style. -/
def TextRun.make (charset : Charset) (text : List Char) (style : TextStyle) :
    Except Failure TextRun :=
  match charset.encode text with
  | .ok bytes => .ok ⟨text, style, bytes.length * style.size.widthFactor⟩
  | .error failure => .error failure

namespace PlacedImage

/-- The white bytes in front of an image: of the bytes the paper has to spare, none on the left,
half at the centre, all on the right. -/
def shift (image : Raster) (alignment : Alignment) (profile : Profile) : Nat :=
  let spare := (profile.widthPx - image.widthPx) / 8
  match alignment with
  | .left => 0
  | .center => spare / 2
  | .right => spare

/-- An image moved into place. -/
def make (image : Raster) (alignment : Alignment) (profile : Profile) :
    Except Failure PlacedImage :=
  let charWidth := max profile.charWidthPx 1
  let width := (image.widthPx + charWidth - 1) / charWidth
  match image.padLeft (shift image alignment profile) with
  | .ok moved => .ok ⟨moved, width⟩
  | .error failure => .error failure

/-- The image that a hexadecimal text holds, moved into place. -/
def ofHex (hex : List Char) (alignment : Alignment) (profile : Profile) :
    Except Failure PlacedImage :=
  match Raster.ofHex hex with
  | .ok image => make image alignment profile
  | .error failure => .error failure

end PlacedImage

/-- A measure in millimetres that an attribute holds, blanks around it being ignored. -/
def readMeasure (attributes : Attributes) (key : String) (standard : Number.Single)
    (measure : Measure) : Except Failure Number.Single :=
  match attributes.get? key with
  | none => .ok standard
  | some value =>
    match Number.Single.read? (Text.trim value) with
    | some mm => .ok mm
    | none => .error (.markup (.badMeasure measure))

/-- The side of a QR symbol without a size, in millimetres. -/
def standardQrSize : Number.Single :=
  Number.Single.ofNat 20

/-- The height of a bar code without one, in millimetres. -/
def standardBarcodeHeight : Number.Single :=
  Number.Single.ofNat 10

/-- The text of a QR symbol: without the characters at its ends that are not above the space. -/
def qrPayload (body : List Char) : List Char :=
  Text.trimBoth (fun c => c.toNat ≤ 32) body

/-- The QR symbol of a body with attributes, moved into place. -/
def Element.ofQr (body : List Char) (attributes : Attributes) (alignment : Alignment)
    (profile : Profile) (source : MatrixSource) : Except Failure Element := do
  let size ← readMeasure attributes "size" standardQrSize .qrSize
  let payload := qrPayload body
  let matrix ← source payload
  let image ← matrix.scale (profile.mmToPx size)
  let placed ← PlacedImage.make image alignment profile
  pure (.qr payload placed)

/-- The bar code of a body with attributes. -/
def PlacedBarcode.ofAttributes (body : List Char) (attributes : Attributes) (alignment : Alignment)
    (profile : Profile) : Except Failure PlacedBarcode := do
  let height ← readMeasure attributes "height" standardBarcodeHeight .barcodeHeight
  let width ← readMeasure attributes "width" (Number.Single.ofNat 0) .barcodeWidth
  let position := match attributes.get? "text" with
    | some name => TextPosition.ofName name
    | none => .below
  let name := (attributes.get? "type").getD "ean13".toList
  match Symbology.ofName? name with
  | none => .error (.markup (.unknownSymbology name))
  | some symbology =>
    let barcode ← Barcode.make profile symbology (Text.trim body) width height position
    pure ⟨barcode, alignment, profile.charsPerLine⟩

end Receipt.Markup
