import Mathlib.Algebra.Ring.Nat
import Receipt.Markup.Line
import Receipt.Proofs.Markup.Column

/-!
# What a line holds

A line is read segment by segment.  It has one column for each of them, at least one, and its first
columns are what its first segments alone would give.
-/

set_option autoImplicit false

namespace Receipt.Markup

/-- Any text behind a start has a segment. -/
theorem segmentsFrom_ne_nil (start text : List Char) : segmentsFrom start text ≠ [] := by
  induction text generalizing start with
  | nil => simp [segmentsFrom]
  | cons c rest ih =>
      rw [segmentsFrom]
      split
      · simp
      · exact ih _

/-- Every line has a segment. -/
theorem splitSegments_ne_nil (line : List Char) : splitSegments line ≠ [] :=
  segmentsFrom_ne_nil [] line

/-- Elements side by side are as wide as both parts. -/
theorem totalWidth_append (front back : List Element) :
    totalWidth (front ++ back) = totalWidth front + totalWidth back := by
  induction front with
  | nil => simp [totalWidth]
  | cons element rest ih =>
      simp only [totalWidth, List.cons_append, List.foldr_cons] at ih ⊢
      omega

namespace Line

/-- Whether all that a line prints is text. -/
def IsText (line : Line) : Prop :=
  ∀ element ∈ line.elements, element.isText = true

instance (line : Line) : Decidable line.IsText :=
  inferInstanceAs (Decidable (∀ element ∈ line.elements, element.isText = true))

/-- A line prints nothing but text exactly if its columns do. -/
theorem isText_iff {line : Line} :
    line.IsText ↔ ∀ column ∈ line.columns, ∀ element ∈ column.elements, element.isText = true := by
  rw [IsText, elements, List.forall_mem_flatMap]

/-- A line is as wide as its columns. -/
theorem width_eq_sum (line : Line) : line.width = (line.columns.map Column.width).sum := by
  unfold Line.width
  induction line.columns with
  | nil => rfl
  | cons column rest ih => simp [ih]

/-- A line is as wide as its elements. -/
theorem width_eq_totalWidth (line : Line) : line.width = totalWidth line.elements := by
  unfold Line.width elements
  induction line.columns with
  | nil => rfl
  | cons column rest ih =>
      rw [List.foldr_cons, List.flatMap_cons, totalWidth_append, ← ih]
      rfl

section

variable {profile : Profile} {source : MatrixSource} {sole : Bool} {share : Nat}
  {columns : List Column} {carry after : Carry} {state next : Formatting}

/-- No segments give no columns and change nothing. -/
theorem parseColumns_nil_eq_ok :
    parseColumns profile source sole share [] carry state = .ok (columns, after, next) ↔
      columns = [] ∧ after = carry ∧ next = state := by
  rw [parseColumns]
  constructor
  · intro same
    cases same
    exact ⟨rfl, rfl, rfl⟩
  · rintro ⟨rfl, rfl, rfl⟩
    rfl

/-- The first segment gives the first column, and the others go on behind it. -/
theorem parseColumns_cons_eq_ok {segment : List Char} {rest : List (List Char)} :
    parseColumns profile source sole share (segment :: rest) carry state =
        .ok (columns, after, next) ↔
      ∃ read others, Column.parse profile source sole share segment carry state = .ok read ∧
        parseColumns profile source sole share rest read.carry read.state =
          .ok (others, after, next) ∧
        columns = read.column :: others := by
  rw [parseColumns]
  simp only [Result.bind_eq_ok]
  constructor
  · rintro ⟨read, first, ⟨others, left, behind⟩, later, same⟩
    cases same
    exact ⟨read, others, first, later, rfl⟩
  · rintro ⟨read, others, first, later, rfl⟩
    exact ⟨read, first, (others, after, next), later, rfl⟩

/-- Each segment gives one column. -/
theorem length_parseColumns {segments : List (List Char)}
    (parsed : parseColumns profile source sole share segments carry state =
      .ok (columns, after, next)) : columns.length = segments.length := by
  induction segments generalizing columns carry state with
  | nil => simp [(parseColumns_nil_eq_ok.mp parsed).1]
  | cons segment rest ih =>
      obtain ⟨read, others, -, later, rfl⟩ := parseColumns_cons_eq_ok.mp parsed
      rw [List.length_cons, List.length_cons, ih later]

/-- The first columns of a line are what reading its first segments gives. -/
theorem parseColumns_take {segments : List (List Char)}
    (parsed : parseColumns profile source sole share segments carry state =
      .ok (columns, after, next)) (k : Nat) :
    ∃ between behind, parseColumns profile source sole share (segments.take k) carry state =
      .ok (columns.take k, between, behind) := by
  induction segments generalizing columns carry state k with
  | nil =>
      rw [(parseColumns_nil_eq_ok.mp parsed).1]
      refine ⟨carry, state, ?_⟩
      simp [parseColumns_nil_eq_ok]
  | cons segment rest ih =>
      cases k with
      | zero => exact ⟨carry, state, rfl⟩
      | succ k =>
          obtain ⟨read, others, first, later, rfl⟩ := parseColumns_cons_eq_ok.mp parsed
          obtain ⟨between, behind, shorter⟩ := ih later k
          refine ⟨between, behind, ?_⟩
          rw [List.take_succ_cons, List.take_succ_cons, parseColumns_cons_eq_ok]
          exact ⟨read, others.take k, first, shorter, rfl⟩

/-- The column of a segment is what reading that segment gives behind the columns in front of it. -/
theorem parseColumns_getElem {segments : List (List Char)}
    (parsed : parseColumns profile source sole share segments carry state =
      .ok (columns, after, next))
    {k : Nat} {segment : List Char} (cut : segments[k]? = some segment) :
    ∃ (before : Carry) (between : Formatting) (read : ColumnRead),
      parseColumns profile source sole share (segments.take k) carry state =
          .ok (columns.take k, before, between) ∧
        Column.parse profile source sole share segment before between = .ok read ∧
        columns[k]? = some read.column ∧
        parseColumns profile source sole share (segments.take (k + 1)) carry state =
          .ok (columns.take (k + 1), read.carry, read.state) := by
  induction segments generalizing columns carry state k with
  | nil => cases cut
  | cons head rest ih =>
      obtain ⟨read, others, first, later, rfl⟩ := parseColumns_cons_eq_ok.mp parsed
      cases k with
      | zero =>
          cases cut
          refine ⟨carry, state, read, rfl, first, rfl, ?_⟩
          exact parseColumns_cons_eq_ok.mpr ⟨read, [], first, rfl, rfl⟩
      | succ k =>
          obtain ⟨before, between, own, front, made, placed, whole⟩ := ih later cut
          refine ⟨before, between, own, ?_, made, placed, ?_⟩
          · exact parseColumns_cons_eq_ok.mpr ⟨read, others.take k, first, front, rfl⟩
          · exact parseColumns_cons_eq_ok.mpr ⟨read, others.take (k + 1), first, whole, rfl⟩

end

/-- What equal shares leave over is the remainder. -/
theorem owed_eq_mod (chars count : Nat) : chars - chars / count * count = chars % count := by
  rw [Nat.mod_def, Nat.mul_comm]

/-- A line is read by giving its segments equal shares and owing them the remainder. -/
theorem parse_eq_ok {profile : Profile} {source : MatrixSource} {text : List Char}
    {state next : Formatting} {line : Line} :
    Line.parse profile source text state = .ok (line, next) ↔
      let segments := splitSegments text
      let share := profile.charsPerLine / segments.length
      line.share = share ∧
        parseColumns profile source (segments.length == 1) share segments
          ⟨Number.signed64 (profile.charsPerLine % segments.length : Nat), 0⟩ state =
            .ok (line.columns, line.carry, next) := by
  obtain ⟨columns, share, carry⟩ := line
  unfold Line.parse
  simp only [Result.bind_eq_ok, owed_eq_mod]
  constructor
  · rintro ⟨⟨read, left, behind⟩, parsed, same⟩
    cases same
    exact ⟨rfl, parsed⟩
  · rintro ⟨rfl, parsed⟩
    exact ⟨(columns, carry, next), parsed, rfl⟩

end Line

end Receipt.Markup
