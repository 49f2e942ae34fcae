import Receipt.Markup.Content
import Receipt.Markup.Padding
import Receipt.Markup.Segment

/-!
# Columns

A column is a segment of a line with its alignment and its elements.  A segment that fills its line
and holds content has that as its only element.  Any other segment has the runs of its pieces, with a
run of spaces on either side where padding is due; padding is of normal size and weight.
-/

set_option autoImplicit false

namespace Receipt.Markup

/-- A segment of a line: its alignment and what it prints. -/
structure Column where
  alignment : Alignment
  elements : List Element
  deriving DecidableEq

/-- The width of elements side by side. -/
def totalWidth (elements : List Element) : Nat :=
  elements.foldr (fun element rest => element.width + rest) 0

/-- The style of padding beside text of a style. -/
def paddingStyle (style : TextStyle) : TextStyle :=
  { style with size := .normal, weight := .normal }

/-- What reading a column gives: the column, what it leaves to the next one of its line, and the
state of formatting behind it. -/
structure ColumnRead where
  column : Column
  carry : Carry
  state : Formatting

namespace Column

/-- The width in characters, padding included. -/
def width (column : Column) : Nat :=
  totalWidth column.elements

/-- The runs of pieces of text. -/
def runsOf (charset : Charset) (pieces : List Piece) : Except Failure (List Element) :=
  pieces.mapM (fun piece => Element.text <$> TextRun.make charset piece.text piece.style)

/-- So many spaces in the style of padding beside text of a style; no run when there are none. -/
def spaces (charset : Charset) (count : Nat) (style : TextStyle) :
    Except Failure (List Element) :=
  if count = 0 then .ok []
  else do
    let run ← TextRun.make charset (List.replicate count ' ') (paddingStyle style)
    pure [Element.text run]

/-- The column of a segment of text on `share` characters. -/
def ofText (profile : Profile) (share : Nat) (alignment : Alignment) (text : List Char)
    (carry : Carry) (state : Formatting) : Except Failure ColumnRead := do
  let scanned := scan state text
  let runs ← runsOf profile.charset scanned.1
  let padding :=
    Padding.distribute alignment (Number.signed64 share) (Number.signed64 (totalWidth runs)) carry
  let left ← spaces profile.charset padding.1.left state.current
  let right ← spaces profile.charset padding.1.right scanned.2.current
  pure ⟨⟨alignment, left ++ runs ++ right⟩, padding.2, scanned.2⟩

/-- The content of a segment that fills its line. -/
def content? (sole : Bool) (text : List Char) : Option Content :=
  if sole then Content.recognize? (Text.trim text) else none

/-- The column of a segment on `share` characters; `sole` says that it fills its line. -/
def parse (profile : Profile) (source : MatrixSource) (sole : Bool) (share : Nat)
    (segment : List Char) (carry : Carry) (state : Formatting) : Except Failure ColumnRead :=
  let marked := splitMarker segment
  match content? sole marked.2 with
  | some content => do
    let element ← content.toElement marked.1 profile source
    pure ⟨⟨marked.1, [element]⟩, carry, state⟩
  | none => ofText profile share marked.1 marked.2 carry state

end Column

end Receipt.Markup
