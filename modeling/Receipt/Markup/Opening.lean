import Receipt.Markup.Formatting

/-!
# Spans of markup

What a `<` stands for.  Together with the next `>` it makes a span; a span that is a formatting tag
changes the state of formatting, and any other `<` is a character of the text.  Only a short name can
be that of a formatting tag, so that a span with a longer one need not be read; `Opening.read_eq` says
that this changes nothing.
-/

set_option autoImplicit false

namespace Receipt.Markup

/-- The text between a `<` and the next `>`, and the text behind that. -/
def closeSpan? (text : List Char) : Option (List Char × List Char) :=
  match text.dropWhile (· != '>') with
  | [] => none
  | _ :: after => some (text.takeWhile (· != '>'), after)

/-- What follows a span is shorter than the text the span was found in. -/
theorem length_closeSpan? {text inner after : List Char}
    (h : closeSpan? text = some (inner, after)) : after.length < text.length := by
  have shorter := (List.dropWhile_sublist (· != '>') (l := text)).length_le
  unfold closeSpan? at h
  split at h
  · cases h
  · next closed =>
      cases h
      rw [closed, List.length_cons] at shorter
      omega

/-- What a `<` stands for: text, when no `>` follows; a character, when the span is no formatting tag;
or a tag with the state and the text behind it. -/
inductive Opening where
  | unclosed
  | character
  | tag (next : Formatting) (after : List Char)

/-- Whether the name at the start of a text can be that of a formatting tag.  A name is at most the
slash longer than the longest of those names. -/
def startsTagName (text : List Char) : Bool :=
  let written := (text.take 6).takeWhile (fun c => c != ' ' && c != '>')
  written.length < 6 && Formatting.tagNames.contains (Tag.readName written).1

/-- What the `<` in front of a text stands for.  The span is read only if its name can be that of a
formatting tag. -/
def Opening.read (state : Formatting) (text : List Char) : Opening :=
  if startsTagName text then
    match closeSpan? text with
    | none => unclosed
    | some (inner, after) =>
      match state.follow? (Tag.parse ('<' :: (inner ++ ['>']))) with
      | some next => tag next after
      | none => character
  else if text.any (· == '>') then character
  else unclosed

/-- The span behind a `<` is what stands in front of the first `>`. -/
theorem inner_of_closeSpan? {text inner after : List Char}
    (h : closeSpan? text = some (inner, after)) : inner = text.takeWhile (· != '>') := by
  unfold closeSpan? at h
  split at h
  · cases h
  · cases h
    rfl

/-- The text in front of the first `>` has none. -/
theorem not_mem_takeWhile_close (text : List Char) : '>' ∉ text.takeWhile (· != '>') := by
  intro mem
  have kept := List.all_eq_true.mp (List.all_takeWhile (p := (· != '>')) (l := text)) _ mem
  simp at kept

/-- A span is closed exactly when a `>` follows. -/
theorem closeSpan?_eq_none_iff (text : List Char) :
    closeSpan? text = none ↔ text.any (· == '>') = false := by
  induction text with
  | nil => simp [closeSpan?]
  | cons c rest ih =>
      by_cases mark : c = '>'
      · simp [closeSpan?, mark]
      · have same : closeSpan? (c :: rest) = none ↔ closeSpan? rest = none := by
          unfold closeSpan?
          rw [List.dropWhile_cons_of_pos (by simpa using mark)]
          cases rest.dropWhile (· != '>') <;> simp
        rw [same, ih]
        simp [mark]

/-- The name of a span is the text up to the first blank or `>`. -/
theorem takeWhile_name (text : List Char) :
    (text.takeWhile (· != '>')).takeWhile (· != ' ') =
      text.takeWhile (fun c => c != ' ' && c != '>') := by
  induction text with
  | nil => rfl
  | cons c rest ih =>
      by_cases mark : c = '>'
      · simp [mark]
      · by_cases space : c = ' '
        · simp [space]
        · simp [mark, space, ih]

/-- Only a short name can be one of those that format text. -/
theorem length_lt_of_readName_mem {written : List Char}
    (h : (Tag.readName written).1 ∈ Formatting.tagNames) : written.length < 6 := by
  have long := Tag.length_readName written
  have short : ∀ name ∈ Formatting.tagNames, name.length ≤ 4 := by decide
  have := short _ h
  omega

/-- A span whose name cannot be that of a formatting tag is none. -/
theorem follow?_of_not_startsTagName (state : Formatting) {text inner after : List Char}
    (unnamed : startsTagName text = false) (closed : closeSpan? text = some (inner, after)) :
    state.follow? (Tag.parse ('<' :: (inner ++ ['>']))) = none := by
  have bare : '>' ∉ inner := inner_of_closeSpan? closed ▸ not_mem_takeWhile_close text
  rw [Tag.parse_span bare]
  apply Formatting.follow?_eq_none
  intro listed
  have name : inner.takeWhile (· != ' ') = text.takeWhile (fun c => c != ' ' && c != '>') := by
    rw [inner_of_closeSpan? closed, takeWhile_name]
  have short := length_lt_of_readName_mem listed
  have whole : (text.take 6).takeWhile (fun c => c != ' ' && c != '>') =
      inner.takeWhile (· != ' ') := by
    rw [← List.take_takeWhile, ← name, List.take_of_length_le (Nat.le_of_lt short)]
  have found : startsTagName text = true := by
    simp only [startsTagName, whole, Bool.and_eq_true, decide_eq_true_eq]
    exact ⟨short, List.contains_iff_mem.mpr listed⟩
  rw [unnamed] at found
  cases found

/-- Reading the name first changes nothing: a `<` stands for what its span says. -/
theorem Opening.read_eq (state : Formatting) (text : List Char) :
    Opening.read state text =
      match closeSpan? text with
      | none => unclosed
      | some (inner, after) =>
        match state.follow? (Tag.parse ('<' :: (inner ++ ['>']))) with
        | some next => tag next after
        | none => character := by
  unfold Opening.read
  by_cases named : startsTagName text = true
  · rw [if_pos named]
  · rw [if_neg named]
    cases closed : closeSpan? text with
    | none => simp [(closeSpan?_eq_none_iff text).mp closed]
    | some found =>
        have marked : text.any (· == '>') = true := by
          cases any : text.any (· == '>') with
          | true => rfl
          | false => rw [(closeSpan?_eq_none_iff text).mpr any] at closed; cases closed
        simp [marked, follow?_of_not_startsTagName state (by simpa using named) closed]

/-- What follows a tag is shorter than the text that it starts. -/
theorem Opening.length_read {state next : Formatting} {text after : List Char}
    (h : Opening.read state text = tag next after) : after.length < text.length := by
  rw [Opening.read_eq] at h
  split at h
  · cases h
  · next inner behind closed =>
      split at h
      · cases h
        exact length_closeSpan? closed
      · cases h

end Receipt.Markup
