import Receipt.Markup.Element
import Receipt.Markup.Piece

/-!
# Content lines

A line that is nothing but one `<img>`, `<barcode>` or `<qrcode>` tag, its body and its closing tag
prints an image, a bar code or a QR symbol.
-/

set_option autoImplicit false

namespace Receipt.Markup

/-- What a content line prints. -/
inductive ContentKind where
  | image
  | barcode
  | qr
  deriving DecidableEq, Repr

namespace ContentKind

/-- The kind that a tag's name stands for. -/
def ofName? (name : List Char) : Option ContentKind :=
  if name = "img".toList then some image
  else if name = "barcode".toList then some barcode
  else if name = "qrcode".toList then some qr
  else none

end ContentKind

/-- A content line: its kind, the attributes of its tag and its body. -/
structure Content where
  kind : ContentKind
  attributes : Attributes
  body : List Char
  deriving DecidableEq, Repr

namespace Content

/-- The closing tag of a name. -/
def closingTag (name : List Char) : List Char :=
  '<' :: '/' :: (name ++ ['>'])

/-- The content of a text without blanks around it, if it starts with a tag of content and ends, not
before the end of that tag, with its closing tag. -/
def recognize? (trimmed : List Char) : Option Content :=
  match trimmed with
  | '<' :: rest =>
    match closeSpan? rest with
    | none => none
    | some (inner, after) =>
      let tag := Tag.parse ('<' :: (inner ++ ['>']))
      match ContentKind.ofName? tag.name with
      | none => none
      | some kind =>
        let closing := closingTag tag.name
        if closing.isSuffixOf after then
          some ⟨kind, tag.attributes, after.take (after.length - closing.length)⟩
        else none
  | _ => none

/-- The element that a content line prints. -/
def toElement (content : Content) (alignment : Alignment) (profile : Profile)
    (source : MatrixSource) : Except Failure Element :=
  match content.kind with
  | .image => Element.image <$> PlacedImage.ofHex content.body alignment profile
  | .barcode =>
    Element.barcode <$>
      PlacedBarcode.ofAttributes content.body content.attributes alignment profile
  | .qr => Element.ofQr content.body content.attributes alignment profile source

end Content

end Receipt.Markup
