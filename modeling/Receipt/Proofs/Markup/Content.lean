import Receipt.Markup.Document
import Receipt.Proofs.Text

/-!
# Lines of content

A text without line feeds is one line, and a line without markers, except for one at its start, is
one segment.  If that holds nothing but a tag of content, a body and the closing tag, with spaces on
both sides, its body is what stands between the tags, and it makes the only element of the line.
-/

set_option autoImplicit false

namespace Receipt.Markup

/-- Text without line feeds is read into the line that has begun. -/
theorem linesFrom_append_of_not_mem {text : List Char} (bare : '\n' ∉ text)
    (start rest : List Char) :
    linesFrom start (text ++ rest) = linesFrom (text.reverse ++ start) rest := by
  induction text generalizing start with
  | nil => rfl
  | cons c text ih =>
      rw [List.mem_cons, not_or] at bare
      rw [List.cons_append, linesFrom, if_neg (Ne.symm bare.1), ih bare.2, List.reverse_cons,
        List.append_assoc, List.singleton_append]

/-- Text without line feeds ends the line that has begun. -/
theorem linesFrom_of_not_mem {text : List Char} (bare : '\n' ∉ text) (start : List Char) :
    linesFrom start text = [start.reverse ++ text] := by
  have read := linesFrom_append_of_not_mem bare start []
  rw [List.append_nil] at read
  rw [read, linesFrom, List.reverse_append, List.reverse_reverse]

/-- Text without line feeds is one line. -/
theorem splitLines_of_not_mem {text : List Char} (bare : '\n' ∉ text) : splitLines text = [text] :=
  linesFrom_of_not_mem bare []

/-- Only a bracket can start a marker. -/
theorem startsWithMarker_of_ne {c : Char} (other : c ≠ '[') (rest : List Char) :
    startsWithMarker (c :: rest) = false := by
  unfold startsWithMarker
  split
  · next same =>
      cases same
      exact absurd rfl other
  · rfl

/-- Text without brackets is read into the segment that has begun. -/
theorem segmentsFrom_append_of_not_mem {text : List Char} (bare : '[' ∉ text)
    (start rest : List Char) :
    segmentsFrom start (text ++ rest) = segmentsFrom (text.reverse ++ start) rest := by
  induction text generalizing start with
  | nil => rfl
  | cons c text ih =>
      rw [List.mem_cons, not_or] at bare
      rw [List.cons_append, segmentsFrom, startsWithMarker_of_ne (Ne.symm bare.1), Bool.false_and,
        if_neg Bool.false_ne_true, ih bare.2, List.reverse_cons, List.append_assoc,
        List.singleton_append]

/-- Text without brackets ends the segment that has begun. -/
theorem segmentsFrom_of_not_mem {text : List Char} (bare : '[' ∉ text) (start : List Char) :
    segmentsFrom start text = [start.reverse ++ text] := by
  have read := segmentsFrom_append_of_not_mem bare start []
  rw [List.append_nil] at read
  rw [read, segmentsFrom, List.reverse_append, List.reverse_reverse]

/-- A line without markers behind its first character is one segment. -/
theorem splitSegments_cons_of_not_mem {rest : List Char} (bare : '[' ∉ rest) (c : Char) :
    splitSegments (c :: rest) = [c :: rest] := by
  rw [splitSegments, segmentsFrom, List.isEmpty_nil, Bool.not_true, Bool.and_false,
    if_neg Bool.false_ne_true, segmentsFrom_of_not_mem bare]
  rfl

/-- The name of the tag of a kind. -/
def ContentKind.tagName : ContentKind → List Char
  | image => "img".toList
  | barcode => "barcode".toList
  | qr => "qrcode".toList

/-- The kinds are known by the names of their tags. -/
theorem ContentKind.ofName?_tagName (kind : ContentKind) : ofName? kind.tagName = some kind := by
  cases kind <;> decide

/-- A body between a tag without attributes and its closing tag. -/
def tagged (kind : ContentKind) (body : List Char) : List Char :=
  '<' :: (kind.tagName ++ '>' :: (body ++ Content.closingTag kind.tagName))

/-- A text between spaces. -/
def spaced (before behind : Nat) (text : List Char) : List Char :=
  List.replicate before ' ' ++ (text ++ List.replicate behind ' ')

/-- A body between the tags of its kind and spaces, behind a marker or none. -/
def taggedLine (marked : Bool) (before behind : Nat) (kind : ContentKind) (body : List Char) :
    List Char :=
  (if marked then ['[', 'L', ']'] else []) ++ spaced before behind (tagged kind body)

/-- The spaces around a tag are ignored. -/
theorem trim_spaced_tagged (before behind : Nat) (kind : ContentKind) (body : List Char) :
    Text.trim (spaced before behind (tagged kind body)) = tagged kind body := by
  have blank (count : Nat) : ∀ c ∈ List.replicate count ' ', Text.isBlank c = true := by
    intro c mem
    rw [List.eq_of_mem_replicate mem]
    decide
  have ends : tagged kind body =
      '<' :: (kind.tagName ++ '>' :: (body ++ '<' :: '/' :: kind.tagName) ++ ['>']) := by
    simp [tagged, Content.closingTag]
  rw [spaced, ends]
  exact Text.trim_between (blank before) (blank behind) _ (by decide) (by decide)

/-- A span ends at the first `>` behind it. -/
theorem closeSpan?_append {inner : List Char} (bare : '>' ∉ inner) (after : List Char) :
    closeSpan? (inner ++ '>' :: after) = some (inner, after) := by
  have kept : ∀ c ∈ inner, (c != '>') = true := by
    intro c mem
    have other : c ≠ '>' := fun same => bare (same ▸ mem)
    simpa using other
  have stop : ('>' :: after).dropWhile (· != '>') = '>' :: after :=
    List.dropWhile_cons_of_neg (by decide)
  rw [closeSpan?, List.dropWhile_append_of_pos kept, stop, List.takeWhile_append_of_pos kept,
    List.takeWhile_cons_of_neg (by decide), List.append_nil]

/-- A span ends at the first `>`. -/
theorem closeSpan?_eq_some_iff {text inner after : List Char} :
    closeSpan? text = some (inner, after) ↔ text = inner ++ '>' :: after ∧ '>' ∉ inner := by
  constructor
  · intro closed
    have bare : '>' ∉ inner := inner_of_closeSpan? closed ▸ not_mem_takeWhile_close text
    have marked : '>' ∈ text := by
      cases found : text.any (· == '>') with
      | true => simpa using found
      | false =>
          rw [(closeSpan?_eq_none_iff text).mpr found] at closed
          cases closed
    obtain ⟨front, back, rfl, front_bare⟩ := List.eq_append_cons_of_mem marked
    rw [closeSpan?_append front_bare] at closed
    cases closed
    exact ⟨rfl, bare⟩
  · rintro ⟨rfl, bare⟩
    exact closeSpan?_append bare after

/-- A body in a tag of content is recognized as it stands there. -/
theorem recognize?_tagged (kind : ContentKind) (body : List Char) :
    Content.recognize? (tagged kind body) = some ⟨kind, [], body⟩ := by
  have bare : '>' ∉ kind.tagName := by
    cases kind <;> decide
  have opened : Tag.parse ('<' :: (kind.tagName ++ ['>'])) = ⟨kind.tagName, false, []⟩ := by
    rw [Tag.parse_span bare]
    cases kind <;> decide +kernel
  have ended :
      (Content.closingTag kind.tagName).isSuffixOf (body ++ Content.closingTag kind.tagName) =
        true :=
    List.isSuffixOf_iff_suffix.mpr ⟨body, rfl⟩
  have cut : (body ++ Content.closingTag kind.tagName).take
      ((body ++ Content.closingTag kind.tagName).length -
        (Content.closingTag kind.tagName).length) = body := by
    rw [List.length_append, Nat.add_sub_cancel]
    exact List.take_left
  rw [tagged, Content.recognize?, closeSpan?_append bare]
  simp only [opened, kind.ofName?_tagName, ended, cut, if_true]

/-- A character that neither the tags nor spaces have is in a line only if its body has it. -/
theorem not_mem_spaced_tagged {c : Char} {kind : ContentKind} (own : c ∉ spaced 1 1 (tagged kind []))
    {body : List Char} (bare : c ∉ body) (before behind : Nat) :
    c ∉ spaced before behind (tagged kind body) := by
  simp only [spaced, tagged, List.mem_append, List.mem_cons, List.mem_replicate, not_or] at own ⊢
  obtain ⟨space, ⟨opening, name, closed, -, ending⟩, -⟩ := own
  have other : c ≠ ' ' := fun same => space ⟨by decide, same⟩
  exact ⟨fun mem => other mem.2, ⟨opening, name, closed, bare, ending⟩, fun mem => other mem.2⟩

/-- Without a line feed in its body the line is one. -/
theorem splitLines_taggedLine (marked : Bool) (before behind : Nat) (kind : ContentKind)
    {body : List Char} (bare : '\n' ∉ body) :
    splitLines (taggedLine marked before behind kind body) =
      [taggedLine marked before behind kind body] := by
  have spaced_bare : '\n' ∉ spaced before behind (tagged kind body) :=
    not_mem_spaced_tagged (by cases kind <;> decide) bare before behind
  apply splitLines_of_not_mem
  cases marked <;> simp [taggedLine, spaced_bare]

/-- The line is one segment: there is no marker behind its first character. -/
theorem splitSegments_taggedLine (marked : Bool) (before behind : Nat) (kind : ContentKind)
    {body : List Char} (bare : '[' ∉ body) :
    splitSegments (taggedLine marked before behind kind body) =
      [taggedLine marked before behind kind body] := by
  have spaced_bare : '[' ∉ spaced before behind (tagged kind body) :=
    not_mem_spaced_tagged (by cases kind <;> decide) bare before behind
  cases marked with
  | true =>
      have rest_bare : '[' ∉ 'L' :: ']' :: spaced before behind (tagged kind body) := by
        simp [spaced_bare]
      exact splitSegments_cons_of_not_mem rest_bare '['
  | false =>
      cases before with
      | zero => exact splitSegments_cons_of_not_mem (List.not_mem_of_not_mem_cons spaced_bare) '<'
      | succ count =>
          exact splitSegments_cons_of_not_mem (List.not_mem_of_not_mem_cons spaced_bare) ' '

/-- The marker of the line is no part of its text, and stands for the left. -/
theorem splitMarker_taggedLine (marked : Bool) (before behind : Nat) (kind : ContentKind)
    (body : List Char) :
    splitMarker (taggedLine marked before behind kind body) =
      (.left, spaced before behind (tagged kind body)) := by
  cases marked with
  | true => rfl
  | false => cases before <;> rfl

/-- A line that is a tag of content has what its body makes, on the left, as its only element, and
leaves the state of formatting as it was. -/
theorem Line.parse_taggedLine (profile : Profile) (source : MatrixSource) (marked : Bool)
    (before behind : Nat) {kind : ContentKind} {body : List Char} (bare : '[' ∉ body)
    {element : Element}
    (made : Content.toElement ⟨kind, [], body⟩ .left profile source = .ok element)
    (state : Formatting) :
    ∃ line, Line.parse profile source (taggedLine marked before behind kind body) state =
        .ok (line, state) ∧
      line.columns = [⟨.left, [element]⟩] := by
  have found : Column.content? true (spaced before behind (tagged kind body)) =
      some ⟨kind, [], body⟩ := by
    rw [Column.content?, if_pos rfl, trim_spaced_tagged, recognize?_tagged]
  have column (share : Nat) (carry : Carry) :
      Column.parse profile source true share (taggedLine marked before behind kind body) carry
        state = .ok ⟨⟨.left, [element]⟩, carry, state⟩ := by
    simp only [Column.parse, splitMarker_taggedLine, found, made]
    rfl
  refine ⟨⟨[⟨.left, [element]⟩], profile.charsPerLine / 1,
    ⟨Number.signed64 (profile.charsPerLine - profile.charsPerLine / 1 * 1 : Nat), 0⟩⟩, ?_, rfl⟩
  rw [Line.parse, splitSegments_taggedLine marked before behind kind bare]
  simp only [List.length_singleton, beq_self_eq_true, Line.parseColumns, column]
  rfl

end Receipt.Markup
