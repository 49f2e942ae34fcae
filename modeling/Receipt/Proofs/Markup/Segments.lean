import Mathlib.Data.List.Basic
import Receipt.Proofs.Markup.Line

/-!
# The cut of a line at its markers

The segments of a line are its only cut in which the parts join to the line, every part but the
first one starts with a marker, no part has a marker behind its start, and no part is empty, unless
the line is.  There is one segment for every marker of the line, and one more if the line does not
start with a marker.  A segment is not cut any further.
-/

set_option autoImplicit false

namespace Receipt.Markup

/-- The markers that cut a line. -/
def markers : List (List Char) :=
  ["[L]".toList, "[C]".toList, "[R]".toList]

/-- Whether a text starts with one of the markers. -/
def Marked (text : List Char) : Prop :=
  ∃ marker ∈ markers, marker <+: text

instance (text : List Char) : Decidable (Marked text) :=
  inferInstanceAs (Decidable (∃ marker ∈ markers, marker <+: text))

/-- A marked text is a letter in brackets with more text behind it. -/
theorem marked_iff (text : List Char) :
    Marked text ↔ ∃ letter rest, (letter = 'L' ∨ letter = 'C' ∨ letter = 'R') ∧
      text = '[' :: letter :: ']' :: rest := by
  constructor
  · rintro ⟨marker, known, rest, rfl⟩
    simp only [markers, List.mem_cons, List.not_mem_nil, or_false] at known
    rcases known with rfl | rfl | rfl
    · exact ⟨'L', rest, .inl rfl, rfl⟩
    · exact ⟨'C', rest, .inr (.inl rfl), rfl⟩
    · exact ⟨'R', rest, .inr (.inr rfl), rfl⟩
  · rintro ⟨letter, rest, rfl | rfl | rfl, rfl⟩
    · exact ⟨_, List.mem_cons_self, rest, rfl⟩
    · exact ⟨_, List.mem_cons_of_mem _ List.mem_cons_self, rest, rfl⟩
    · exact ⟨_, List.mem_cons_of_mem _ (List.mem_cons_of_mem _ List.mem_cons_self), rest, rfl⟩

/-- A text is seen to start with a marker exactly if it does. -/
theorem startsWithMarker_iff (text : List Char) : startsWithMarker text = true ↔ Marked text := by
  rw [marked_iff]
  unfold startsWithMarker
  split
  · next letter rest =>
      simp only [Bool.or_eq_true, beq_iff_eq, or_assoc]
      constructor
      · intro known
        exact ⟨letter, rest, known, rfl⟩
      · rintro ⟨_, _, known, same⟩
        cases same
        exact known
  · next other =>
      refine iff_of_false Bool.false_ne_true ?_
      rintro ⟨letter, rest, -, rfl⟩
      exact other letter rest rfl

/-- More text behind it leaves a marked text marked. -/
theorem Marked.append {text : List Char} (h : Marked text) (more : List Char) :
    Marked (text ++ more) := by
  obtain ⟨marker, known, start⟩ := h
  exact ⟨marker, known, start.trans (List.prefix_append text more)⟩

/-- A marked text has at least its marker. -/
theorem Marked.ne_nil {text : List Char} (h : Marked text) : text ≠ [] := by
  obtain ⟨_, _, -, rfl⟩ := (marked_iff text).mp h
  exact List.cons_ne_nil _ _

/-- No marker lies across the border of two parts if the second one is empty or marked. -/
theorem marked_append_iff {text : List Char} (full : text ≠ []) {more : List Char}
    (border : more = [] ∨ Marked more) : Marked (text ++ more) ↔ Marked text := by
  refine ⟨fun h => ?_, fun h => h.append more⟩
  rcases border with rfl | marked
  · rwa [List.append_nil] at h
  · obtain ⟨letter, rest, known, joined⟩ := (marked_iff _).mp h
    obtain ⟨_, behind, -, rfl⟩ := (marked_iff more).mp marked
    -- A text of one or two characters would have the second bracket inside the marker.
    rcases text with _ | ⟨a, _ | ⟨b, _ | ⟨c, tail⟩⟩⟩
    · exact absurd rfl full
    · simp only [List.cons_append, List.nil_append, List.cons.injEq] at joined
      rw [← joined.2.1] at known
      simp at known
    · simp at joined
    · simp only [List.cons_append, List.cons.injEq] at joined
      obtain ⟨rfl, rfl, rfl, -⟩ := joined
      exact (marked_iff _).mpr ⟨_, tail, known, rfl⟩

/-- Whether a part of a line has no marker behind its start. -/
def Uncut (part : List Char) : Prop :=
  ∀ front back, part = front ++ back → front ≠ [] → ¬ Marked back

/-- An empty part has no marker. -/
theorem uncut_nil : Uncut [] := by
  intro front back same full
  exact absurd (List.append_eq_nil_iff.mp same.symm).1 full

/-- One more character in front of a part is the start of an uncut one exactly if the part is uncut
and does not start with a marker itself. -/
theorem uncut_cons_iff (c : Char) (part : List Char) :
    Uncut (c :: part) ↔ ¬ Marked part ∧ Uncut part := by
  constructor
  · intro h
    refine ⟨h [c] part rfl (List.cons_ne_nil _ _), ?_⟩
    intro front back same _
    exact h (c :: front) back (by rw [same, List.cons_append]) (List.cons_ne_nil _ _)
  · rintro ⟨start, inner⟩ front back same full
    obtain ⟨first, front, rfl⟩ := List.exists_cons_of_ne_nil full
    rw [List.cons_append, List.cons.injEq] at same
    by_cases none : front = []
    · rw [none, List.nil_append] at same
      exact same.2 ▸ start
    · exact inner front back same.2 none

/-- A cut of a line in front of its markers, and nowhere else. -/
structure IsCut (line : List Char) (parts : List (List Char)) : Prop where
  ne_nil : parts ≠ []
  joined : parts.flatten = line
  marked : ∀ part ∈ parts.tail, Marked part
  uncut : ∀ part ∈ parts, Uncut part
  full : line ≠ [] → ∀ part ∈ parts, part ≠ []

/-- Every line has such a cut: its first character begins a part of its own if a marker follows, and
belongs to the first part of the rest otherwise. -/
theorem exists_isCut (line : List Char) : ∃ parts, IsCut line parts := by
  induction line with
  | nil =>
      refine ⟨[[]], List.cons_ne_nil _ _, rfl, List.forall_mem_nil _, ?_, fun full =>
        absurd rfl full⟩
      exact List.forall_mem_singleton.mpr uncut_nil
  | cons c rest ih =>
      obtain ⟨parts, cut⟩ := ih
      obtain ⟨first, others, rfl⟩ := List.exists_cons_of_ne_nil cut.ne_nil
      have others_full : ∀ part ∈ others, part ≠ [] := fun part mem => (cut.marked part mem).ne_nil
      by_cases start : Marked first
      · refine ⟨[c] :: first :: others, List.cons_ne_nil _ _, ?_, ?_, ?_, fun _ => ?_⟩
        · rw [List.flatten_cons, cut.joined, List.singleton_append]
        · exact List.forall_mem_cons.mpr ⟨start, cut.marked⟩
        · have alone : Uncut [c] := (uncut_cons_iff c []).mpr ⟨fun h => h.ne_nil rfl, uncut_nil⟩
          exact List.forall_mem_cons.mpr ⟨alone, cut.uncut⟩
        · exact List.forall_mem_cons.mpr ⟨List.cons_ne_nil _ _,
            List.forall_mem_cons.mpr ⟨start.ne_nil, others_full⟩⟩
      · obtain ⟨first_uncut, others_uncut⟩ := List.forall_mem_cons.mp cut.uncut
        refine ⟨(c :: first) :: others, List.cons_ne_nil _ _, ?_, cut.marked, ?_, fun _ => ?_⟩
        · rw [List.flatten_cons, List.cons_append, ← List.flatten_cons, cut.joined]
        · exact List.forall_mem_cons.mpr
            ⟨(uncut_cons_iff c first).mpr ⟨start, first_uncut⟩, others_uncut⟩
        · exact List.forall_mem_cons.mpr ⟨List.cons_ne_nil _ _, others_full⟩

/-- A line ends behind its parts, or a marked one follows. -/
theorem flatten_border {parts : List (List Char)} (marked : ∀ part ∈ parts, Marked part) :
    parts.flatten = [] ∨ Marked parts.flatten := by
  cases parts with
  | nil => exact .inl rfl
  | cons first others =>
      have first_marked := marked first List.mem_cons_self
      by_cases none : others.flatten = []
      · exact .inr (by rwa [List.flatten_cons, none, List.append_nil])
      · exact .inr (first_marked.append _)

/-- Text without markers is read into the segment that has begun. -/
theorem segmentsFrom_append {start text : List Char} (begun : start ≠ [])
    (bare : ¬ Marked text) (uncut : Uncut text) {back : List Char}
    (border : back = [] ∨ Marked back) :
    segmentsFrom start (text ++ back) = segmentsFrom (text.reverse ++ start) back := by
  induction text generalizing start with
  | nil => rfl
  | cons c rest ih =>
      have read_on : startsWithMarker (c :: (rest ++ back)) = false := by
        rw [Bool.eq_false_iff, ne_eq, startsWithMarker_iff, ← List.cons_append,
          marked_append_iff (List.cons_ne_nil _ _) border]
        exact bare
      obtain ⟨rest_bare, rest_uncut⟩ := (uncut_cons_iff c rest).mp uncut
      rw [List.cons_append, segmentsFrom, read_on, Bool.false_and, if_neg Bool.false_ne_true,
        ih (List.cons_ne_nil _ _) rest_bare rest_uncut, List.reverse_cons, List.append_assoc,
        List.singleton_append]

/-- Behind a segment that has begun, marked parts are segments of their own. -/
theorem segmentsFrom_flatten {start : List Char} (begun : start ≠ []) {parts : List (List Char)}
    (marked : ∀ part ∈ parts, Marked part) (uncut : ∀ part ∈ parts, Uncut part) :
    segmentsFrom start parts.flatten = start.reverse :: parts := by
  induction parts generalizing start with
  | nil => rfl
  | cons first others ih =>
      rw [List.forall_mem_cons] at marked uncut
      obtain ⟨c, rest, rfl⟩ := List.exists_cons_of_ne_nil marked.1.ne_nil
      have cut : startsWithMarker (c :: (rest ++ others.flatten)) = true := by
        rw [startsWithMarker_iff, ← List.cons_append]
        exact marked.1.append _
      have going : (!start.isEmpty) = true := by simpa using begun
      obtain ⟨rest_bare, rest_uncut⟩ := (uncut_cons_iff c rest).mp uncut.1
      rw [List.flatten_cons, List.cons_append, segmentsFrom, cut, going, Bool.true_and, if_pos rfl,
        segmentsFrom_append (List.cons_ne_nil _ _) rest_bare rest_uncut (flatten_border marked.2),
        ih (by simp) marked.2 uncut.2]
      simp

/-- The segments of a line are the parts of any such cut. -/
theorem IsCut.eq_splitSegments {line : List Char} {parts : List (List Char)}
    (cut : IsCut line parts) : parts = splitSegments line := by
  obtain ⟨first, others, rfl⟩ := List.exists_cons_of_ne_nil cut.ne_nil
  rw [← cut.joined, List.flatten_cons, splitSegments]
  cases first with
  | nil =>
      -- An empty part is the only one of an empty line.
      have none : line = [] := by
        by_contra full
        exact cut.full full [] List.mem_cons_self rfl
      have last : others = [] := by
        cases others with
        | nil => rfl
        | cons second rest =>
            have joined := cut.joined
            rw [none] at joined
            simp [(cut.marked second List.mem_cons_self).ne_nil] at joined
      rw [last]
      rfl
  | cons c rest =>
      have others_marked : ∀ part ∈ others, Marked part := cut.marked
      obtain ⟨first_uncut, others_uncut⟩ := List.forall_mem_cons.mp cut.uncut
      obtain ⟨rest_bare, rest_uncut⟩ := (uncut_cons_iff c rest).mp first_uncut
      rw [List.cons_append, segmentsFrom, List.isEmpty_nil, Bool.not_true, Bool.and_false,
        if_neg Bool.false_ne_true, segmentsFrom_append (List.cons_ne_nil _ _) rest_bare rest_uncut
          (flatten_border others_marked),
        segmentsFrom_flatten (by simp) others_marked others_uncut]
      simp

/-- The segments of a line are a cut of it. -/
theorem isCut_splitSegments (line : List Char) : IsCut line (splitSegments line) := by
  obtain ⟨parts, cut⟩ := exists_isCut line
  exact cut.eq_splitSegments ▸ cut

/-- A line with one segment is that segment. -/
theorem splitSegments_of_sole {text : List Char} (sole : (splitSegments text).length = 1) :
    splitSegments text = [text] := by
  obtain ⟨segment, only⟩ := List.length_eq_one_iff.mp sole
  have joined := (isCut_splitSegments text).joined
  rw [only, List.flatten_singleton] at joined
  rw [only, joined]

/-- How many markers a line has. -/
def markerCount (line : List Char) : Nat :=
  line.tails.countP (fun rest => Marked rest)

/-- A character that starts a marker counts as one. -/
theorem markerCount_cons (c : Char) (rest : List Char) :
    markerCount (c :: rest) = markerCount rest + if Marked (c :: rest) then 1 else 0 := by
  simp [markerCount, List.countP_cons]

/-- Behind a segment that has begun, every marker begins another one. -/
theorem length_segmentsFrom {start : List Char} (begun : start ≠ []) (text : List Char) :
    (segmentsFrom start text).length = markerCount text + 1 := by
  induction text generalizing start with
  | nil => rfl
  | cons c rest ih =>
      have going : (!start.isEmpty) = true := by simpa using begun
      rw [segmentsFrom, markerCount_cons]
      simp only [going, Bool.and_true, startsWithMarker_iff]
      split
      · rw [List.length_cons, ih (List.cons_ne_nil _ _)]
      · rw [ih (List.cons_ne_nil _ _)]

/-- There is a segment for each marker, and one in front of them unless a marker starts the line. -/
theorem length_splitSegments (line : List Char) :
    (splitSegments line).length = markerCount line + if Marked line then 0 else 1 := by
  cases line with
  | nil => rfl
  | cons c rest =>
      rw [splitSegments, segmentsFrom, List.isEmpty_nil, Bool.not_true, Bool.and_false,
        if_neg Bool.false_ne_true, length_segmentsFrom (List.cons_ne_nil _ _), markerCount_cons]
      split <;> omega

/-- The cut of a line.  The segments of a line are its only cut in front of its markers.  There are
as many as there are markers, and one more if the line does not start with a marker.  A segment
alone is not cut any further. -/
theorem splitSegments_unique (line : List Char) :
    (∀ parts, IsCut line parts ↔ parts = splitSegments line) ∧
      (splitSegments line).length = markerCount line + (if Marked line then 0 else 1) ∧
      ∀ segment ∈ splitSegments line, splitSegments segment = [segment] := by
  refine ⟨?_, length_splitSegments line, ?_⟩
  · intro parts
    constructor
    · exact IsCut.eq_splitSegments
    · rintro rfl
      exact isCut_splitSegments line
  · intro segment mem
    have alone : IsCut segment [segment] :=
      { ne_nil := List.cons_ne_nil _ _
        joined := by rw [List.flatten_singleton]
        marked := List.forall_mem_nil _
        uncut := List.forall_mem_singleton.mpr ((isCut_splitSegments line).uncut segment mem)
        full := fun full => List.forall_mem_singleton.mpr full }
    exact alone.eq_splitSegments.symm

/-- A bracket in front of a marker is a segment of its own. -/
example : splitSegments "[[R]x".toList = ["[".toList, "[R]x".toList] := by
  decide

end Receipt.Markup
