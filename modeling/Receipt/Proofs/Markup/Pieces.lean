import Mathlib.Data.List.TakeWhile
import Receipt.Proofs.Markup.Column
import Receipt.Proofs.Markup.Content
import Receipt.Qr.Symbol

/-!
# What a column keeps of its text

The text of a column is a row of stretches: text that is kept, and tags that format text, which are
taken out.  A tag runs from a `<` to the next `>`, and a `<` that is kept starts no such tag.  The
runs of the column are the stretches that are kept, in their order, each in the style that the tags
in front of it leave, and the next column starts in the state behind all of them.
-/

set_option autoImplicit false

namespace Receipt.Markup

/-- A stretch of text: text that is kept, or a tag, as what stands between its brackets. -/
inductive Stretch where
  | kept (text : List Char)
  | tag (inner : List Char)
  deriving DecidableEq, Repr

/-- A tag with its brackets. -/
def bracketed (inner : List Char) : List Char :=
  '<' :: (inner ++ ['>'])

/-- Whether what stands between brackets is a tag that formats text, opening or closing. -/
def FormatsText (inner : List Char) : Prop :=
  (Tag.parse (bracketed inner)).name ∈ Formatting.tagNames

/-- Whether a `<` in front of a text starts a tag that formats text and ends at the next `>`. -/
def StartsTag (text : List Char) : Prop :=
  ∃ inner after, text = inner ++ '>' :: after ∧ '>' ∉ inner ∧ FormatsText inner

/-- The state of formatting behind a tag. -/
def Formatting.behind (state : Formatting) (inner : List Char) : Formatting :=
  (state.follow? (Tag.parse (bracketed inner))).getD state

namespace Stretch

/-- A stretch as it stands in the text. -/
def source : Stretch → List Char
  | kept text => text
  | tag inner => bracketed inner

/-- What is kept of a stretch. -/
def remains : Stretch → List Char
  | kept text => text
  | tag _ => []

/-- Whether a row of stretches has exactly the tags of its text: a tag formats text and ends at its
first `>`, and no `<` that is kept starts such a tag. -/
def AreCutAtTags : List Stretch → Prop
  | [] => True
  | kept text :: rest =>
    (∀ before after, text = before ++ '<' :: after → ¬ StartsTag (after ++ rest.flatMap source)) ∧
      AreCutAtTags rest
  | tag inner :: rest => '>' ∉ inner ∧ FormatsText inner ∧ AreCutAtTags rest

/-- The pieces of a row of stretches: what is kept, in the style that the tags in front of it
leave. -/
def pieces (state : Formatting) : List Stretch → List Piece
  | [] => []
  | kept text :: rest => ⟨text, state.current⟩ :: pieces state rest
  | tag inner :: rest => pieces (state.behind inner) rest

/-- The state of formatting behind a row of stretches. -/
def leaves (state : Formatting) : List Stretch → Formatting
  | [] => state
  | kept _ :: rest => leaves state rest
  | tag inner :: rest => leaves (state.behind inner) rest

/-- The text of the pieces is what is kept. -/
theorem flatMap_text_pieces (state : Formatting) (stretches : List Stretch) :
    (pieces state stretches).flatMap Piece.text = stretches.flatMap remains := by
  induction stretches generalizing state with
  | nil => rfl
  | cons stretch rest ih =>
      cases stretch with
      | kept text => rw [pieces, List.flatMap_cons, List.flatMap_cons, ih, remains]
      | tag inner => rw [pieces, List.flatMap_cons, ih, remains, List.nil_append]

/-- Stretches without tags are their text, and leave the state as it is. -/
theorem eq_source_of_no_tag {stretches : List Stretch} (none : ∀ inner, tag inner ∉ stretches)
    (state : Formatting) :
    stretches.flatMap remains = stretches.flatMap source ∧ leaves state stretches = state := by
  induction stretches with
  | nil => exact ⟨rfl, rfl⟩
  | cons stretch rest ih =>
      cases stretch with
      | kept text =>
          obtain ⟨same, left⟩ := ih (fun inner mem => none inner (List.mem_cons_of_mem _ mem))
          exact ⟨by rw [List.flatMap_cons, List.flatMap_cons, same, remains, source], left⟩
      | tag inner => exact absurd List.mem_cons_self (none inner)

/-- A tag among stretches is a tag of their text. -/
theorem AreCutAtTags.startsTag {stretches : List Stretch} (cut : AreCutAtTags stretches)
    {inner : List Char} (mem : tag inner ∈ stretches) :
    ∃ before after, stretches.flatMap source = before ++ '<' :: after ∧ StartsTag after := by
  induction stretches with
  | nil => cases mem
  | cons stretch rest ih =>
      cases stretch with
      | kept text =>
          have further : tag inner ∈ rest := by simpa using mem
          obtain ⟨before, after, joined, starts⟩ := ih cut.2 further
          refine ⟨text ++ before, after, ?_, starts⟩
          rw [List.flatMap_cons, joined, source, List.append_assoc]
      | tag first =>
          refine ⟨[], first ++ '>' :: rest.flatMap source, ?_, first, _, rfl, cut.1, cut.2.1⟩
          simp [source, bracketed]

/-- Text without a `<` may stand in front of any stretches. -/
theorem AreCutAtTags.cons_kept {stretches : List Stretch} (cut : AreCutAtTags stretches)
    {text : List Char} (bare : '<' ∉ text) : AreCutAtTags (kept text :: stretches) := by
  refine ⟨?_, cut⟩
  rintro before after rfl
  simp at bare

end Stretch

/-- A tag that formats text is followed. -/
theorem Formatting.exists_follow? (state : Formatting) {tag : Tag}
    (listed : tag.name ∈ tagNames) : ∃ next, state.follow? tag = some next := by
  simp only [tagNames, List.mem_cons, List.not_mem_nil, or_false] at listed
  unfold follow?
  rcases listed with name | name | name
  all_goals
    rw [name]
    exact ⟨_, rfl⟩

/-- What a `<` stands for: text to the end of the column when no `>` follows, a character when it
starts no tag that formats text, and that tag otherwise. -/
theorem Opening.read_spec (state : Formatting) (text : List Char) :
    match Opening.read state text with
    | .unclosed => '>' ∉ text
    | .character => ¬ StartsTag text
    | .tag next after =>
      ∃ inner, text = inner ++ '>' :: after ∧ '>' ∉ inner ∧ FormatsText inner ∧
        next = state.behind inner := by
  rw [Opening.read_eq]
  cases closed : closeSpan? text with
  | none =>
      rw [closeSpan?_eq_none_iff] at closed
      intro mem
      simpa using List.any_eq_false.mp closed _ mem
  | some found =>
      obtain ⟨inner, after⟩ := found
      obtain ⟨rfl, bare⟩ := closeSpan?_eq_some_iff.mp closed
      dsimp only
      by_cases formats : FormatsText inner
      · obtain ⟨next, followed⟩ := state.exists_follow? formats
        have behind : next = state.behind inner := by
          rw [Formatting.behind, followed, Option.getD_some]
        rw [bracketed] at followed
        rw [followed]
        exact ⟨inner, rfl, bare, formats, behind⟩
      · have unfollowed := Formatting.follow?_eq_none state formats
        rw [bracketed] at unfollowed
        rw [unfollowed]
        rintro ⟨other, rest, same, other_bare, other_formats⟩
        rw [closeSpan?_eq_some_iff.mpr ⟨same, other_bare⟩] at closed
        cases closed
        exact formats other_formats

/-- A text with a `<` is what stands in front of the first one, that one, and its tail. -/
theorem eq_append_of_dropWhile {text tail : List Char} {head : Char}
    (opened : text.dropWhile (· != '<') = head :: tail) :
    text = text.takeWhile (· != '<') ++ '<' :: tail ∧ '<' ∉ text.takeWhile (· != '<') := by
  have stopped := List.head?_dropWhile_not (· != '<') text
  rw [opened] at stopped
  obtain rfl : head = '<' := by simpa using stopped
  refine ⟨?_, ?_⟩
  · rw [← opened, List.takeWhile_append_dropWhile]
  · intro mem
    have kept := List.all_eq_true.mp (List.all_takeWhile (p := (· != '<')) (l := text)) _ mem
    simp at kept

/-- What follows a `<` of a text is the tail of the first one or a part at its end. -/
theorem suffix_of_append_eq {front tail before after : List Char} (bare : '<' ∉ front)
    (same : front ++ '<' :: tail = before ++ '<' :: after) : after <:+ tail := by
  rcases List.append_eq_append_iff.mp same with ⟨more, rfl, rest⟩ | ⟨more, rfl, rest⟩
  · cases more with
    | nil =>
        cases rest
        exact List.suffix_rfl
    | cons c more =>
        rw [List.cons_append, List.cons.injEq] at rest
        rw [rest.2]
        exact (List.suffix_cons _ _).trans (List.suffix_append more _)
  · cases more with
    | nil =>
        cases rest
        exact List.suffix_rfl
    | cons c more =>
        rw [List.cons_append, List.cons.injEq] at rest
        exact absurd (rest.1 ▸ by simp) bare

open Stretch in
/-- A text is cut at its tags, and its pieces are what is kept of it. -/
theorem scan_eq_pieces (state : Formatting) (text : List Char) :
    ∃ stretches : List Stretch, stretches.flatMap source = text ∧ AreCutAtTags stretches ∧
      scan state text = (pieces state stretches, leaves state stretches) := by
  have none_cut : AreCutAtTags [] := trivial
  fun_induction scan state text with
  | case1 state text opened =>
      have bare : '<' ∉ text := by
        intro mem
        rw [List.dropWhile_eq_nil_iff] at opened
        simpa using opened _ mem
      exact ⟨[kept text], List.append_nil text, none_cut.cons_kept bare, rfl⟩
  | case2 state text head tail opened read =>
      obtain ⟨joined, bare⟩ := eq_append_of_dropWhile opened
      have unclosed := Opening.read_spec state tail
      rw [read] at unclosed
      refine ⟨[kept text], List.append_nil text, ⟨?_, none_cut⟩, rfl⟩
      rintro before after same ⟨inner, rest, closed, -⟩
      rw [joined] at same
      apply unclosed
      apply (suffix_of_append_eq bare same).subset
      rw [List.flatMap_nil, List.append_nil] at closed
      simp [closed]
  | case3 state text head tail opened before next after read rest ih =>
      obtain ⟨stretches, source_eq, cut, scanned⟩ := ih
      obtain ⟨joined, bare⟩ := eq_append_of_dropWhile opened
      have started := Opening.read_spec state tail
      rw [read] at started
      obtain ⟨inner, tail_eq, inner_bare, formats, behind⟩ := started
      have tag_cut : AreCutAtTags (tag inner :: stretches) := ⟨inner_bare, formats, cut⟩
      refine ⟨kept (text.takeWhile (· != '<')) :: tag inner :: stretches, ?_,
        tag_cut.cons_kept bare, ?_⟩
      · rw [List.flatMap_cons, List.flatMap_cons, source_eq, source, source, bracketed,
          List.cons_append, List.append_assoc, List.singleton_append, ← tail_eq, ← joined]
      · rw [pieces, pieces, leaves, leaves, ← behind]
        simp only [rest, scanned, before]
  | case4 state text head tail opened before read rest ih =>
      -- The scan goes on behind the `<`, whose span may still have a tag further inside.
      obtain ⟨stretches, source_eq, cut, scanned⟩ := ih
      obtain ⟨joined, bare⟩ := eq_append_of_dropWhile opened
      have unstarted := Opening.read_spec state tail
      rw [read] at unstarted
      have mark_cut : AreCutAtTags (kept ['<'] :: stretches) := by
        refine ⟨?_, cut⟩
        intro front back same
        obtain ⟨rfl, rfl⟩ : front = [] ∧ back = [] := by
          have short := congrArg List.length same
          simp only [List.length_append, List.length_cons, List.length_nil] at short
          exact ⟨List.length_eq_zero_iff.mp (by omega), List.length_eq_zero_iff.mp (by omega)⟩
        rw [List.nil_append, source_eq]
        exact unstarted
      refine ⟨kept (text.takeWhile (· != '<')) :: kept ['<'] :: stretches, ?_,
        mark_cut.cons_kept bare, ?_⟩
      · rw [List.flatMap_cons, List.flatMap_cons, source_eq, source, source,
          List.singleton_append, ← joined]
      · rw [pieces, pieces, leaves, leaves]
        simp only [rest, scanned, before]

namespace Column

/-- A column of text keeps its text.  The text is a row of stretches, tags that format text and what
stands between them, and no `<` that is kept starts such a tag.  Between the padding, the runs of
the column are the stretches that are kept, each in the style that the tags in front of it leave
behind the state at the start; the next column starts in the state behind all tags.  A text without
such tags is kept as it is. -/
theorem keeps_text {profile : Profile} {source : MatrixSource} {sole : Bool} {share : Nat}
    {segment : List Char} {carry : Carry} {state : Formatting} {read : ColumnRead}
    (parsed : Column.parse profile source sole share segment carry state = .ok read)
    (plain : content? sole (splitMarker segment).2 = none) :
    let text := (splitMarker segment).2
    let padding := (Column.padding profile share (splitMarker segment).1 text carry state).1
    ∃ stretches : List Stretch,
      stretches.flatMap Stretch.source = text ∧ Stretch.AreCutAtTags stretches ∧
      read.column.elements = paddingRuns padding.left state.current ++
        (Stretch.pieces state stretches).map (Piece.run profile.charset) ++
        paddingRuns padding.right read.state.current ∧
      (Stretch.pieces state stretches).flatMap Piece.text = stretches.flatMap Stretch.remains ∧
      read.state = Stretch.leaves state stretches ∧
      ((∀ before after, text = before ++ '<' :: after → ¬ StartsTag after) →
        (Stretch.pieces state stretches).flatMap Piece.text = text ∧ read.state = state) := by
  intro text padding
  rcases Column.parse_eq_ok.mp parsed with ⟨content, _, found, -⟩ | ⟨-, laid⟩
  · rw [plain] at found
    cases found
  · obtain ⟨-, rfl⟩ := Column.ofText_eq_ok.mp laid
    obtain ⟨stretches, source_eq, cut, scanned⟩ := scan_eq_pieces state text
    have kept := Stretch.flatMap_text_pieces state stretches
    have leaves_eq : (scan state text).2 = Stretch.leaves state stretches := by rw [scanned]
    refine ⟨stretches, source_eq, cut, ?_, kept, leaves_eq, ?_⟩
    · have runs : contentRuns profile.charset state text =
          (Stretch.pieces state stretches).map (Piece.run profile.charset) := by
        rw [contentRuns, scanned]
      rw [← runs]
      rfl
    · intro untagged
      have none : ∀ inner, Stretch.tag inner ∉ stretches := by
        intro inner mem
        obtain ⟨before, after, joined, starts⟩ := cut.startsTag mem
        exact untagged before after (source_eq.symm.trans joined) starts
      obtain ⟨same, stays⟩ := Stretch.eq_source_of_no_tag none state
      exact ⟨by rw [kept, same, source_eq], leaves_eq.trans stays⟩

/-- Of three `<`, the first one is kept, and the last one is a part of the tag that closes. -/
def tangled : List Char :=
  "a<x<b>b</b <i>c".toList

/-- Five characters of that text are kept at the centre of the paper, behind a state that is as it
was. -/
theorem keeps_text_tangled :
    content? true tangled = none ∧
    ∃ read, Column.parse .mm58 Qr.encode true 32 ("[C]".toList ++ tangled) ⟨0, 0⟩ .initial =
        .ok read ∧
      ∃ stretches : List Stretch,
        stretches.flatMap Stretch.source = tangled ∧ Stretch.AreCutAtTags stretches ∧
        read.column.elements = paddingRuns 13 Formatting.initial.current ++
          (Stretch.pieces .initial stretches).map (Piece.run Profile.mm58.charset) ++
          paddingRuns 14 read.state.current ∧
        (Stretch.pieces .initial stretches).flatMap Piece.text =
          stretches.flatMap Stretch.remains ∧
        read.state = Stretch.leaves .initial stretches ∧ read.state = .initial := by
  have plain : content? true tangled = none := by decide +kernel
  have placed : (Column.padding .mm58 32 .center tangled ⟨0, 0⟩ .initial).1 = ⟨13, 14⟩ := by
    decide +kernel
  have closed : ColumnRead.state <$>
      Column.parse .mm58 Qr.encode true 32 ("[C]".toList ++ tangled) ⟨0, 0⟩ .initial =
        .ok .initial := by
    decide +kernel
  obtain ⟨read, parsed, restored⟩ := Result.map_eq_ok.1 closed
  obtain ⟨stretches, source_eq, cut, elements, kept, leaves_eq, -⟩ := keeps_text parsed plain
  refine ⟨plain, read, parsed, stretches, source_eq, cut, ?_, kept, leaves_eq, restored⟩
  rw [elements]
  change paddingRuns (Column.padding .mm58 32 .center tangled ⟨0, 0⟩ .initial).1.left _ ++ _ ++
    paddingRuns (Column.padding .mm58 32 .center tangled ⟨0, 0⟩ .initial).1.right _ = _
  rw [placed]

end Column

end Receipt.Markup
