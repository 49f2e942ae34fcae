import Receipt.Markup.Line

/-!
# Documents

A document is read line by line.  Formatting that one line opens stays in force on the following
lines, and the first line that cannot be read is the failure of the document.
-/

set_option autoImplicit false

namespace Receipt.Markup

namespace Document

/-- Read lines one after the other, each behind the state of formatting that the one before left. -/
def parseLines (profile : Profile) (source : MatrixSource) (state : Formatting) :
    List (List Char) → Except Failure (List Line × Formatting)
  | [] => .ok ([], state)
  | text :: rest => do
    let read ← Line.parse profile source text state
    let others ← parseLines profile source read.2 rest
    pure (read.1 :: others.1, others.2)

/-- The lines of a document. -/
def parse (profile : Profile) (source : MatrixSource) (text : List Char) :
    Except Failure (List Line) := do
  let read ← parseLines profile source Formatting.initial (splitLines text)
  pure read.1

end Document

end Receipt.Markup
