import Receipt.Markup.Document
import Receipt.Proofs.Markup.Line

/-!
# What a document holds

The lines of a document are of two kinds.  A line of text holds runs, at least one, whose characters
the charset has and whose widths are those of their bytes; a line of content holds a single element
that is no text.  Only a line with a single segment can be of the second kind.
-/

set_option autoImplicit false

namespace Receipt.Markup

/-- Whether the charset has the characters of a run and the width of the run is that of their
bytes. -/
def TextRun.IsWritten (charset : Charset) (run : TextRun) : Prop :=
  charset.Encodes run.text ∧
    run.width = (charset.bytesOf run.text).length * run.style.size.widthFactor

/-- Elements that are runs of text, at least one. -/
structure AreRuns (charset : Charset) (elements : List Element) : Prop where
  ne_nil : elements ≠ []
  written : ∀ element ∈ elements, ∃ run, element = .text run ∧ run.IsWritten charset

/-- A line of text, or of a single element that is no text. -/
inductive Line.Shape (charset : Charset) (line : Line) : Prop where
  | text (runs : AreRuns charset line.elements)
  | content (element : Element) (sole : line.elements = [element])
    (other : element.isText = false)

/-- The charset has the text of every run among such elements. -/
theorem AreRuns.encodes {charset : Charset} {elements : List Element}
    (h : AreRuns charset elements) {run : TextRun} (held : .text run ∈ elements) :
    charset.Encodes run.text := by
  obtain ⟨_, same, written⟩ := h.written _ held
  cases same
  exact written.1

/-- The charset has the text of every run of a line of such a shape. -/
theorem Line.Shape.encodes {charset : Charset} {line : Line} (h : line.Shape charset)
    {run : TextRun} (held : .text run ∈ line.elements) : charset.Encodes run.text := by
  cases h with
  | text runs => exact runs.encodes held
  | content element sole other =>
      rw [sole, List.mem_singleton] at held
      rw [← held] at other
      cases other

/-- A text is cut into at least one piece. -/
theorem scan_fst_ne_nil (state : Formatting) (text : List Char) : (scan state text).1 ≠ [] := by
  unfold scan
  split
  · simp
  · split <;> simp

/-- Padding is written in runs of spaces. -/
theorem isWritten_paddingRuns (charset : Charset) {count : Nat} {style : TextStyle}
    {element : Element} (h : element ∈ paddingRuns count style) :
    ∃ run, element = .text run ∧ run.IsWritten charset := by
  unfold paddingRuns at h
  split at h
  · cases h
  · rw [List.mem_singleton.mp h]
    refine ⟨_, rfl, charset.encodes_spaces count, ?_⟩
    simp [charset.bytesOf_spaces, paddingStyle, TextSize.widthFactor]

namespace Column

/-- A column of text has runs alone. -/
theorem areRuns_ofText {profile : Profile} {share : Nat} {alignment : Alignment}
    {text : List Char} {carry : Carry} {state : Formatting} {read : ColumnRead}
    (parsed : Column.ofText profile share alignment text carry state = .ok read) :
    AreRuns profile.charset read.column.elements := by
  obtain ⟨encodes, rfl⟩ := Column.ofText_eq_ok.mp parsed
  constructor
  · simp [Column.laidOut, contentRuns, scan_fst_ne_nil]
  · intro element mem
    simp only [Column.laidOut, List.mem_append] at mem
    rcases mem with (left | content) | right
    · exact isWritten_paddingRuns profile.charset left
    · obtain ⟨piece, cut, rfl⟩ := List.mem_map.mp content
      exact ⟨_, rfl, encodes piece cut, rfl⟩
    · exact isWritten_paddingRuns profile.charset right

/-- A column that does not fill its line has runs alone. -/
theorem areRuns_of_not_sole {profile : Profile} {source : MatrixSource} {share : Nat}
    {segment : List Char} {carry : Carry} {state : Formatting} {read : ColumnRead}
    (parsed : Column.parse profile source false share segment carry state = .ok read) :
    AreRuns profile.charset read.column.elements := by
  rcases Column.parse_eq_ok.mp parsed with ⟨content, _, found, -⟩ | ⟨-, text⟩
  · cases found
  · exact areRuns_ofText text

end Column

namespace Line

/-- Columns that do not fill their line have runs alone. -/
theorem areRuns_of_not_sole {profile : Profile} {source : MatrixSource} {share : Nat}
    {segments : List (List Char)} {carry after : Carry} {state next : Formatting}
    {columns : List Column}
    (parsed : parseColumns profile source false share segments carry state =
      .ok (columns, after, next)) :
    ∀ column ∈ columns, AreRuns profile.charset column.elements := by
  induction segments generalizing columns carry state with
  | nil =>
      rw [(parseColumns_nil_eq_ok.mp parsed).1]
      exact List.forall_mem_nil _
  | cons segment rest ih =>
      obtain ⟨read, others, first, later, rfl⟩ := parseColumns_cons_eq_ok.mp parsed
      rw [List.forall_mem_cons]
      exact ⟨Column.areRuns_of_not_sole first, ih later⟩

/-- Every line has one of the two kinds. -/
theorem shape_of_parse {profile : Profile} {source : MatrixSource} {text : List Char}
    {state next : Formatting} {line : Line}
    (parsed : Line.parse profile source text state = .ok (line, next)) :
    line.Shape profile.charset := by
  obtain ⟨-, columns⟩ := parse_eq_ok.mp parsed
  cases found : splitSegments text with
  | nil => exact absurd found (splitSegments_ne_nil text)
  | cons segment rest =>
      rw [found] at columns
      obtain ⟨read, others, first, later, columns_eq⟩ := parseColumns_cons_eq_ok.mp columns
      cases rest with
      | nil =>
          have none := (parseColumns_nil_eq_ok.mp later).1
          have elements_eq : line.elements = read.column.elements := by
            rw [elements, columns_eq, none, List.flatMap_cons, List.flatMap_nil, List.append_nil]
          rcases Column.parse_eq_ok.mp first with ⟨_, element, -, made, rfl⟩ | ⟨-, laid⟩
          · exact .content element elements_eq (Content.isText_of_toElement made)
          · refine .text ?_
            rw [elements_eq]
            exact Column.areRuns_ofText laid
      | cons second rest =>
          -- Content stands alone on its line, so that each of several columns is text.
          have several : ((segment :: second :: rest).length == 1) = false := by simp
          rw [several] at first later
          have runs := Column.areRuns_of_not_sole first
          have more := areRuns_of_not_sole later
          refine .text ⟨?_, ?_⟩
          · rw [elements, columns_eq, List.flatMap_cons]
            exact List.append_ne_nil_of_left_ne_nil runs.ne_nil _
          · intro element mem
            rw [elements, columns_eq, List.flatMap_cons] at mem
            rcases List.mem_append.mp mem with here | there
            · exact runs.written element here
            · obtain ⟨column, beside, held⟩ := List.mem_flatMap.mp there
              exact (more column beside).written element held

end Line

namespace Document

/-- All lines of a document have such a shape. -/
theorem shape_of_parseLines {profile : Profile} {source : MatrixSource} {state next : Formatting}
    {texts : List (List Char)} {lines : List Line}
    (parsed : parseLines profile source state texts = .ok (lines, next)) :
    ∀ line ∈ lines, line.Shape profile.charset := by
  induction texts generalizing lines state with
  | nil =>
      cases parsed
      exact List.forall_mem_nil _
  | cons text rest ih =>
      rw [parseLines] at parsed
      simp only [Result.bind_eq_ok] at parsed
      obtain ⟨⟨line, between⟩, first, ⟨others, last⟩, later, same⟩ := parsed
      cases same
      rw [List.forall_mem_cons]
      exact ⟨Line.shape_of_parse first, ih later⟩

/-- Every line of a document has one of the two kinds. -/
theorem shape_of_parse {profile : Profile} {source : MatrixSource} {text : List Char}
    {lines : List Line} (parsed : parse profile source text = .ok lines) :
    ∀ line ∈ lines, line.Shape profile.charset := by
  rw [parse] at parsed
  simp only [Result.bind_eq_ok] at parsed
  obtain ⟨⟨_, last⟩, read, same⟩ := parsed
  cases same
  exact shape_of_parseLines read

end Document

end Receipt.Markup
