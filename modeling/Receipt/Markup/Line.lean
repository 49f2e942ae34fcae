import Receipt.Markup.Column

/-!
# Lines

A line is its columns side by side, each on an equal share of the characters of the paper, and what
is left over behind the last one.
-/

set_option autoImplicit false

namespace Receipt.Markup

/-- The columns of a line, the characters each of them shares, and what the last one leaves. -/
structure Line where
  columns : List Column
  share : Nat
  carry : Carry
  deriving DecidableEq

namespace Line

/-- The width in characters, padding included. -/
def width (line : Line) : Nat :=
  line.columns.foldr (fun column rest => column.width + rest) 0

/-- All elements from left to right. -/
def elements (line : Line) : List Element :=
  line.columns.flatMap Column.elements

/-- Whether the paper must be moved to the next line: an image or a code moves it by itself. -/
def endsWithText (line : Line) : Bool :=
  match line.elements.getLast? with
  | some element => element.isText
  | none => false

/-- Read the columns of segments from left to right. -/
def parseColumns (profile : Profile) (source : MatrixSource) (sole : Bool) (share : Nat) :
    List (List Char) → Carry → Formatting → Except Failure (List Column × Carry × Formatting)
  | [], carry, state => .ok ([], carry, state)
  | segment :: rest, carry, state => do
    let read ← Column.parse profile source sole share segment carry state
    let others ← parseColumns profile source sole share rest read.carry read.state
    pure (read.column :: others.1, others.2)

/-- Read a line behind a state of formatting. -/
def parse (profile : Profile) (source : MatrixSource) (text : List Char) (state : Formatting) :
    Except Failure (Line × Formatting) := do
  let segments := splitSegments text
  let count := segments.length
  let share := profile.charsPerLine / count
  let owed := profile.charsPerLine - share * count
  let read ← parseColumns profile source (count == 1) share segments ⟨Number.signed64 owed, 0⟩ state
  pure (⟨read.1, share, read.2.1⟩, read.2.2)

end Line

end Receipt.Markup
