import Mathlib.Data.List.TakeWhile
import Receipt.Markup.Column
import Receipt.Proofs.CodePage
import Receipt.Proofs.Result

/-!
# What a column holds

A column of text is what its pieces and its padding say: each piece is a run of its own, and padding
is a run of spaces on either side.  It can be read exactly when the charset has the characters of
all pieces, since padding can always be encoded.  A column of content holds one element that is not
text, so that the elements of a column tell which of the two it is.
-/

set_option autoImplicit false

namespace Receipt

namespace Charset

/-- The bytes of a text; none for a text that the charset cannot write. -/
def bytesOf (charset : Charset) (text : List Char) : List UInt8 :=
  match charset.encode text with
  | .ok bytes => bytes
  | .error _ => []

/-- Whether a charset has all characters of a text. -/
def Encodes (charset : Charset) (text : List Char) : Prop :=
  charset.encode text = .ok (charset.bytesOf text)

/-- A charset that gives bytes for a text has its characters. -/
theorem encodes_of_encode {charset : Charset} {text : List Char} {bytes : List UInt8}
    (h : charset.encode text = .ok bytes) : charset.Encodes text := by
  rw [Encodes, bytesOf, h]

/-- Every charset has the space. -/
theorem encodes_spaces (charset : Charset) (count : Nat) :
    charset.Encodes (List.replicate count ' ') :=
  encodes_of_encode (charset.encode_spaces count)

/-- Each space is one byte. -/
theorem bytesOf_spaces (charset : Charset) (count : Nat) :
    charset.bytesOf (List.replicate count ' ') = List.replicate count CodePage.spaceByte := by
  rw [bytesOf, charset.encode_spaces]

end Charset

namespace Markup

/-- The run of a text in a style, with the width of its bytes. -/
def TextRun.of (charset : Charset) (text : List Char) (style : TextStyle) : TextRun :=
  ⟨text, style, (charset.bytesOf text).length * style.size.widthFactor⟩

/-- A run can be built exactly of text that the charset has. -/
theorem TextRun.make_eq_ok {charset : Charset} {text : List Char} {style : TextStyle}
    {run : TextRun} :
    TextRun.make charset text style = .ok run ↔
      charset.Encodes text ∧ run = TextRun.of charset text style := by
  unfold TextRun.make TextRun.of Charset.Encodes Charset.bytesOf
  cases charset.encode text with
  | error failure => simp
  | ok bytes => simp [eq_comm]

/-- The run of a piece of text. -/
def Piece.run (charset : Charset) (piece : Piece) : Element :=
  .text (TextRun.of charset piece.text piece.style)

/-- Pieces make runs exactly when the charset has the characters of all of them. -/
theorem Column.runsOf_eq_ok {charset : Charset} {pieces : List Piece} {runs : List Element} :
    Column.runsOf charset pieces = .ok runs ↔
      (∀ piece ∈ pieces, charset.Encodes piece.text) ∧ runs = pieces.map (Piece.run charset) := by
  unfold Column.runsOf
  induction pieces generalizing runs with
  | nil => simp [pure, Except.pure, eq_comm]
  | cons piece rest ih =>
      rw [List.mapM_cons]
      simp only [Result.bind_eq_ok, Result.map_eq_ok, TextRun.make_eq_ok, ih, List.forall_mem_cons,
        List.map_cons]
      constructor
      · rintro ⟨_, ⟨_, ⟨encodes, rfl⟩, rfl⟩, _, ⟨others, rfl⟩, same⟩
        cases same
        exact ⟨⟨encodes, others⟩, rfl⟩
      · rintro ⟨⟨encodes, others⟩, rfl⟩
        exact ⟨_, ⟨_, ⟨encodes, rfl⟩, rfl⟩, _, ⟨others, rfl⟩, rfl⟩

/-- The run of so many spaces beside text of a style; none without spaces. -/
def paddingRuns (count : Nat) (style : TextStyle) : List Element :=
  if count = 0 then [] else [.text ⟨List.replicate count ' ', paddingStyle style, count⟩]

/-- Padding prints text alone. -/
theorem isText_of_mem_paddingRuns {count : Nat} {style : TextStyle} {element : Element}
    (mem : element ∈ paddingRuns count style) : element.isText = true := by
  unfold paddingRuns at mem
  split at mem
  · cases mem
  · rw [List.mem_singleton.mp mem]
    rfl

/-- Padding can always be made. -/
theorem Column.spaces_eq (charset : Charset) (count : Nat) (style : TextStyle) :
    Column.spaces charset count style = .ok (paddingRuns count style) := by
  unfold Column.spaces paddingRuns
  split
  · rfl
  · have made : TextRun.make charset (List.replicate count ' ') (paddingStyle style) =
        .ok ⟨List.replicate count ' ', paddingStyle style, count⟩ := by
      rw [TextRun.make_eq_ok]
      refine ⟨charset.encodes_spaces count, ?_⟩
      simp [TextRun.of, charset.bytesOf_spaces, paddingStyle, TextSize.widthFactor]
    simp only [made]
    rfl

/-- The runs of the text of a column, without its padding. -/
def contentRuns (charset : Charset) (state : Formatting) (text : List Char) : List Element :=
  (scan state text).1.map (Piece.run charset)

/-- The width of the text of a column, without its padding. -/
def contentWidth (charset : Charset) (state : Formatting) (text : List Char) : Nat :=
  totalWidth (contentRuns charset state text)

/-- Text without a `<` is one piece and leaves the state as it is. -/
theorem scan_of_not_mem {text : List Char} (bare : '<' ∉ text) (state : Formatting) :
    scan state text = ([⟨text, state.current⟩], state) := by
  have kept : text.dropWhile (· != '<') = [] := by
    rw [List.dropWhile_eq_nil_iff]
    intro c mem
    have other : c ≠ '<' := fun same => bare (same ▸ mem)
    simpa using other
  unfold scan
  split
  · rfl
  · next opened =>
      rw [kept] at opened
      cases opened

/-- Spaces are nothing but spaces. -/
theorem not_mem_spaces {c : Char} (other : c ≠ ' ') (count : Nat) :
    c ∉ List.replicate count ' ' :=
  fun mem => other (List.eq_of_mem_replicate mem)

/-- Spaces are one piece. -/
theorem scan_spaces (state : Formatting) (count : Nat) :
    scan state (List.replicate count ' ') =
      ([⟨List.replicate count ' ', state.current⟩], state) :=
  scan_of_not_mem (not_mem_spaces (by decide) count) state

/-- Spaces are as wide as their style makes each of them. -/
theorem contentWidth_spaces (charset : Charset) (state : Formatting) (count : Nat) :
    contentWidth charset state (List.replicate count ' ') =
      count * state.current.size.widthFactor := by
  rw [contentWidth, contentRuns, scan_spaces]
  simp [totalWidth, Piece.run, TextRun.of, Element.width, charset.bytesOf_spaces]

/-- The padding of a column of text and what it leaves to the next one. -/
def Column.padding (profile : Profile) (share : Nat) (alignment : Alignment) (text : List Char)
    (carry : Carry) (state : Formatting) : Padding × Carry :=
  Padding.distribute alignment (Number.signed64 share)
    (Number.signed64 (contentWidth profile.charset state text)) carry

/-- What a column of text holds: its runs between the two runs of padding. -/
def Column.laidOut (profile : Profile) (share : Nat) (alignment : Alignment) (text : List Char)
    (carry : Carry) (state : Formatting) : ColumnRead :=
  let padding := Column.padding profile share alignment text carry state
  let next := (scan state text).2
  ⟨⟨alignment, paddingRuns padding.1.left state.current ++
      contentRuns profile.charset state text ++ paddingRuns padding.1.right next.current⟩,
    padding.2, next⟩

/-- A column of text prints text alone. -/
theorem Column.isText_laidOut {profile : Profile} {share : Nat} {alignment : Alignment}
    {text : List Char} {carry : Carry} {state : Formatting} {element : Element}
    (mem : element ∈ (Column.laidOut profile share alignment text carry state).column.elements) :
    element.isText = true := by
  simp only [laidOut, contentRuns, List.mem_append, List.mem_map] at mem
  rcases mem with (left | ⟨piece, -, rfl⟩) | right
  · exact isText_of_mem_paddingRuns left
  · rfl
  · exact isText_of_mem_paddingRuns right

/-- A column of text can be read exactly when the charset has the characters of all its pieces. -/
theorem Column.ofText_eq_ok {profile : Profile} {share : Nat} {alignment : Alignment}
    {text : List Char} {carry : Carry} {state : Formatting} {read : ColumnRead} :
    Column.ofText profile share alignment text carry state = .ok read ↔
      (∀ piece ∈ (scan state text).1, profile.charset.Encodes piece.text) ∧
        read = Column.laidOut profile share alignment text carry state := by
  unfold Column.ofText
  simp only [Result.bind_eq_ok, Column.runsOf_eq_ok, Column.spaces_eq]
  constructor
  · rintro ⟨_, ⟨encodes, rfl⟩, _, left, _, right, same⟩
    cases left
    cases right
    cases same
    exact ⟨encodes, rfl⟩
  · rintro ⟨encodes, rfl⟩
    exact ⟨_, ⟨encodes, rfl⟩, _, rfl, _, rfl, rfl⟩

/-- No content makes an element of text. -/
theorem Content.isText_of_toElement {content : Content} {alignment : Alignment}
    {profile : Profile} {source : MatrixSource} {element : Element}
    (h : content.toElement alignment profile source = .ok element) : element.isText = false := by
  unfold Content.toElement at h
  cases kind : content.kind with
  | image =>
      simp only [kind, Result.map_eq_ok] at h
      obtain ⟨placed, -, rfl⟩ := h
      rfl
  | barcode =>
      simp only [kind, Result.map_eq_ok] at h
      obtain ⟨placed, -, rfl⟩ := h
      rfl
  | qr =>
      simp only [kind, Element.ofQr, Result.bind_eq_ok] at h
      obtain ⟨_, -, _, -, _, -, placed, -, same⟩ := h
      cases same
      rfl

/-- A column is one element of content or laid out text. -/
theorem Column.parse_eq_ok {profile : Profile} {source : MatrixSource} {sole : Bool}
    {share : Nat} {segment : List Char} {carry : Carry} {state : Formatting} {read : ColumnRead} :
    Column.parse profile source sole share segment carry state = .ok read ↔
      (∃ content element, Column.content? sole (splitMarker segment).2 = some content ∧
        content.toElement (splitMarker segment).1 profile source = .ok element ∧
        read = ⟨⟨(splitMarker segment).1, [element]⟩, carry, state⟩) ∨
      (Column.content? sole (splitMarker segment).2 = none ∧
        Column.ofText profile share (splitMarker segment).1 (splitMarker segment).2 carry state =
          .ok read) := by
  unfold Column.parse
  cases found : Column.content? sole (splitMarker segment).2 with
  | none => simp [found]
  | some content =>
      simp only [found, Result.bind_eq_ok, reduceCtorEq, false_and, or_false]
      constructor
      · rintro ⟨element, made, same⟩
        cases same
        exact ⟨content, element, rfl, made, rfl⟩
      · rintro ⟨_, element, same, made, rfl⟩
        cases same
        exact ⟨element, made, rfl⟩

/-- A column that holds text alone is laid out text. -/
theorem Column.eq_laidOut_of_isText {profile : Profile} {source : MatrixSource} {sole : Bool}
    {share : Nat} {segment : List Char} {carry : Carry} {state : Formatting} {read : ColumnRead}
    (parsed : Column.parse profile source sole share segment carry state = .ok read)
    (text : ∀ element ∈ read.column.elements, element.isText = true) :
    read = Column.laidOut profile share (splitMarker segment).1 (splitMarker segment).2 carry
      state := by
  rcases Column.parse_eq_ok.mp parsed with ⟨content, element, -, made, rfl⟩ | ⟨-, laid⟩
  · have shown : element.isText = true := text element (List.mem_singleton.mpr rfl)
    rw [Content.isText_of_toElement made] at shown
    cases shown
  · exact (Column.ofText_eq_ok.mp laid).2

end Markup

end Receipt
