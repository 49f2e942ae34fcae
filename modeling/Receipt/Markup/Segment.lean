import Receipt.Style

/-!
# Lines and their segments

A text is cut into lines at line feeds, and a carriage return before a line feed belongs to it.  A
line is cut into segments in front of every alignment marker, `[L]`, `[C]` or `[R]`; the marker stays
at the start of its segment.  At the start of a segment the letter of a marker may have either case.
-/

set_option autoImplicit false

namespace Receipt.Markup

/-- A line, kept last character first, without the carriage return at its end. -/
def dropReturn (line : List Char) : List Char :=
  match line with
  | '\r' :: rest => rest
  | _ => line

/-- The lines of a text behind the start of a line, which is kept last character first. -/
def linesFrom (start : List Char) : List Char → List (List Char)
  | [] => [start.reverse]
  | c :: rest =>
    if c = '\n' then (dropReturn start).reverse :: linesFrom [] rest
    else linesFrom (c :: start) rest

/-- The lines of a text. -/
def splitLines (text : List Char) : List (List Char) :=
  linesFrom [] text

/-- Whether a text starts with a marker that cuts a line. -/
def startsWithMarker (text : List Char) : Bool :=
  match text with
  | '[' :: letter :: ']' :: _ => letter == 'L' || letter == 'C' || letter == 'R'
  | _ => false

/-- The segments of a line behind the start of a segment, which is kept last character first. -/
def segmentsFrom (start : List Char) : List Char → List (List Char)
  | [] => [start.reverse]
  | c :: rest =>
    if startsWithMarker (c :: rest) && !start.isEmpty then
      start.reverse :: segmentsFrom [c] rest
    else segmentsFrom (c :: start) rest

/-- The segments of a line. -/
def splitSegments (line : List Char) : List (List Char) :=
  segmentsFrom [] line

/-- The alignment of a segment and its text behind the marker; without a marker it is left. -/
def splitMarker (segment : List Char) : Alignment × List Char :=
  match segment with
  | '[' :: letter :: ']' :: rest =>
    match Alignment.ofMarker? letter with
    | some alignment => (alignment, rest)
    | none => (.left, segment)
  | _ => (.left, segment)

end Receipt.Markup
