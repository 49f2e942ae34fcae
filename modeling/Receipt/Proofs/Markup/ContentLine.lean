import Receipt.Proofs.Markup.Document
import Receipt.Proofs.Markup.Pieces
import Receipt.Proofs.Markup.Segments

/-!
# Lines of content and lines of text

A line prints an image, a bar code or a QR symbol exactly if it is a single segment that, without
its marker and the blanks around it, starts with a tag of that name and ends, behind that tag, with
its closing tag.  Such a line has the element that its body makes, or fails as that element does.
Every other line is laid out as text: no body is read, its columns hold runs of text and nothing
else, each at least one, and it can only fail for a character that the charset lacks.
-/

set_option autoImplicit false

namespace Receipt.Markup

/-- A name is that of a kind exactly if its tag has this name. -/
theorem ContentKind.ofName?_eq_some_iff {name : List Char} {kind : ContentKind} :
    ofName? name = some kind ↔ name = kind.tagName := by
  constructor
  · intro named
    unfold ofName? at named
    split at named
    · next same =>
        cases named
        exact same
    · split at named
      · next same =>
          cases named
          exact same
      · split at named
        · next same =>
            cases named
            exact same
        · cases named
  · rintro rfl
    exact kind.ofName?_tagName

namespace Content

/-- Whether a text writes a content: the tag of its kind with its attributes, its body and its
closing tag.  `closing` says whether the first tag has a slash, too. -/
def IsWritten (content : Content) (closing : Bool) (text : List Char) : Prop :=
  ∃ inner, '>' ∉ inner ∧
    Tag.parse (bracketed inner) = ⟨content.kind.tagName, closing, content.attributes⟩ ∧
    text = bracketed inner ++ (content.body ++ closingTag content.kind.tagName)

/-- What is recognized in a text behind its first span. -/
theorem recognize?_span {inner : List Char} (bare : '>' ∉ inner) (after : List Char)
    (content : Content) :
    recognize? (bracketed inner ++ after) = some content ↔
      (Tag.parse (bracketed inner)).name = content.kind.tagName ∧
        (Tag.parse (bracketed inner)).attributes = content.attributes ∧
        after = content.body ++ closingTag content.kind.tagName := by
  have spanned : bracketed inner ++ after = '<' :: (inner ++ '>' :: after) := by
    simp [bracketed]
  have span : '<' :: (inner ++ ['>']) = bracketed inner := rfl
  rw [spanned, recognize?, closeSpan?_append bare]
  simp only [span]
  generalize Tag.parse (bracketed inner) = tag
  obtain ⟨kind, attributes, body⟩ := content
  cases named : ContentKind.ofName? tag.name with
  | none =>
      constructor
      · intro found
        cases found
      · rintro ⟨same, -⟩
        rw [ContentKind.ofName?_eq_some_iff.mpr same] at named
        cases named
  | some found =>
      have name := ContentKind.ofName?_eq_some_iff.mp named
      have kind_eq : tag.name = kind.tagName ↔ found = kind := by
        rw [← ContentKind.ofName?_eq_some_iff, named, Option.some.injEq]
      rw [kind_eq]
      dsimp only
      rw [name]
      split
      · next ended =>
          obtain ⟨front, rfl⟩ := List.isSuffixOf_iff_suffix.mp ended
          rw [List.length_append, Nat.add_sub_cancel, List.take_left, Option.some.injEq,
            Content.mk.injEq]
          constructor
          · rintro ⟨rfl, rfl, rfl⟩
            exact ⟨rfl, rfl, rfl⟩
          · rintro ⟨rfl, rfl, same⟩
            exact ⟨rfl, rfl, List.append_cancel_right same⟩
      · next unended =>
          constructor
          · intro found
            cases found
          · rintro ⟨rfl, -, rfl⟩
            exact absurd (List.isSuffixOf_iff_suffix.mpr ⟨body, rfl⟩) unended

/-- A text is recognized as the content that it writes. -/
theorem recognize?_eq_some_iff {text : List Char} {content : Content} :
    recognize? text = some content ↔ ∃ closing, content.IsWritten closing text := by
  constructor
  · intro found
    -- A text without a first span is not recognized.
    obtain ⟨inner, after, bare, rfl⟩ :
        ∃ inner after, '>' ∉ inner ∧ text = bracketed inner ++ after := by
      unfold recognize? at found
      split at found
      · next rest =>
          split at found
          · cases found
          · next inner after closed =>
              obtain ⟨rfl, bare⟩ := closeSpan?_eq_some_iff.mp closed
              exact ⟨inner, after, bare, by simp [bracketed]⟩
      · cases found
    obtain ⟨name, attributes, rfl⟩ := (recognize?_span bare after content).mp found
    exact ⟨(Tag.parse (bracketed inner)).closing, inner, bare, by rw [← name, ← attributes], rfl⟩
  · rintro ⟨closing, inner, bare, parsed, rfl⟩
    refine (recognize?_span bare _ content).mpr ⟨?_, ?_, rfl⟩
    · rw [parsed]
    · rw [parsed]

end Content

namespace Column

/-- Pieces of text make no runs only if the charset lacks a character of one of them. -/
theorem exists_of_runsOf_eq_error {charset : Charset} {pieces : List Piece} {failure : Failure}
    (failed : runsOf charset pieces = .error failure) : ∃ cause, failure = .encoding cause := by
  unfold runsOf at failed
  induction pieces with
  | nil => cases failed
  | cons piece rest ih =>
      rw [List.mapM_cons] at failed
      simp only [Result.bind_eq_error, Result.map_eq_error] at failed
      rcases failed with first | ⟨_, -, later | ⟨_, -, last⟩⟩
      · unfold TextRun.make at first
        split at first
        · cases first
        · next lacking =>
            cases first
            exact charset.exists_of_encode_eq_error lacking
      · exact ih later
      · cases last

/-- Text cannot be laid out only if the charset lacks a character of it, since padding can always be
encoded. -/
theorem exists_of_ofText_eq_error {profile : Profile} {share : Nat} {alignment : Alignment}
    {text : List Char} {carry : Carry} {state : Formatting} {failure : Failure}
    (failed : Column.ofText profile share alignment text carry state = .error failure) :
    ∃ cause, failure = .encoding cause := by
  simp only [Column.ofText, Column.spaces_eq, Result.bind_eq_error] at failed
  rcases failed with unwritten | ⟨_, -, left | ⟨_, -, right | ⟨_, -, done⟩⟩⟩
  · exact exists_of_runsOf_eq_error unwritten
  · cases left
  · cases right
  · cases done

end Column

namespace Line

/-- The columns of segments from left to right, all laid out as text. -/
def layColumns (profile : Profile) (share : Nat) :
    List (List Char) → Carry → Formatting → Except Failure (List Column × Carry × Formatting)
  | [], carry, state => .ok ([], carry, state)
  | segment :: rest, carry, state => do
    let marked := splitMarker segment
    let read ← Column.ofText profile share marked.1 marked.2 carry state
    let others ← layColumns profile share rest read.carry read.state
    pure (read.column :: others.1, others.2)

/-- A line laid out as text, whatever it says. -/
def layText (profile : Profile) (text : List Char) (state : Formatting) :
    Except Failure (Line × Formatting) := do
  let segments := splitSegments text
  let share := profile.charsPerLine / segments.length
  let owed := profile.charsPerLine % segments.length
  let laid ← layColumns profile share segments ⟨Number.signed64 owed, 0⟩ state
  pure (⟨laid.1, share, laid.2.1⟩, laid.2.2)

/-- Segments without content are laid out as text. -/
theorem parseColumns_eq_layColumns {profile : Profile} {source : MatrixSource} {sole : Bool}
    {share : Nat} {segments : List (List Char)}
    (plain : ∀ segment ∈ segments, Column.content? sole (splitMarker segment).2 = none)
    (carry : Carry) (state : Formatting) :
    parseColumns profile source sole share segments carry state =
      layColumns profile share segments carry state := by
  induction segments generalizing carry state with
  | nil => rfl
  | cons segment rest ih =>
      rw [List.forall_mem_cons] at plain
      simp only [parseColumns, layColumns, Column.parse, plain.1, ih plain.2]

/-- A failed layout lacks a character. -/
theorem exists_of_layColumns_eq_error {profile : Profile} {share : Nat}
    {segments : List (List Char)} {carry : Carry} {state : Formatting} {failure : Failure}
    (failed : layColumns profile share segments carry state = .error failure) :
    ∃ cause, failure = .encoding cause := by
  induction segments generalizing carry state with
  | nil => cases failed
  | cons segment rest ih =>
      simp only [layColumns, Result.bind_eq_error] at failed
      rcases failed with first | ⟨read, -, later | ⟨others, -, last⟩⟩
      · exact Column.exists_of_ofText_eq_error first
      · exact ih later
      · cases last

/-- Segments that are laid out as text give a column of runs each. -/
theorem areRuns_of_layColumns {profile : Profile} {share : Nat} {segments : List (List Char)}
    {carry : Carry} {state : Formatting} {laid : List Column × Carry × Formatting}
    (done : layColumns profile share segments carry state = .ok laid) :
    laid.1.length = segments.length ∧
      ∀ column ∈ laid.1, AreRuns profile.charset column.elements := by
  induction segments generalizing carry state laid with
  | nil =>
      cases done
      exact ⟨rfl, List.forall_mem_nil _⟩
  | cons segment rest ih =>
      simp only [layColumns, Result.bind_eq_ok] at done
      obtain ⟨read, first, others, later, same⟩ := done
      cases same
      obtain ⟨length_eq, runs⟩ := ih later
      refine ⟨congrArg (· + 1) length_eq, ?_⟩
      exact List.forall_mem_cons.mpr ⟨Column.areRuns_ofText first, runs⟩

/-- Whether a line is that of a content: a single segment that writes it behind its marker and
between blanks. -/
structure HoldsContent (text : List Char) (content : Content) : Prop where
  sole : (splitSegments text).length = 1
  written : ∃ closing, content.IsWritten closing (Text.trim (splitMarker text).2)

/-- Content is found in a line exactly if the line holds it. -/
theorem content?_eq_some_iff {text : List Char} {content : Content} :
    Column.content? ((splitSegments text).length == 1) (splitMarker text).2 = some content ↔
      HoldsContent text content := by
  unfold Column.content?
  split
  · next sole =>
      rw [Content.recognize?_eq_some_iff]
      exact ⟨fun written => ⟨by simpa using sole, written⟩, HoldsContent.written⟩
  · next several =>
      refine iff_of_false nofun fun held => several ?_
      rw [held.sole]
      rfl

/-- A line of content has the element that its body makes, or fails as it does. -/
theorem parse_of_holdsContent {text : List Char} {content : Content}
    (held : HoldsContent text content) (profile : Profile) (source : MatrixSource)
    (state : Formatting) :
    Line.parse profile source text state =
      (fun element =>
        (⟨[⟨(splitMarker text).1, [element]⟩], profile.charsPerLine, ⟨0, 0⟩⟩, state)) <$>
          content.toElement (splitMarker text).1 profile source := by
  have found := content?_eq_some_iff.mpr held
  rw [held.sole, beq_self_eq_true] at found
  rw [Line.parse, splitSegments_of_sole held.sole]
  simp only [List.length_singleton, beq_self_eq_true, parseColumns, Column.parse, found,
    Nat.div_one, Nat.mul_one, Nat.sub_self]
  cases content.toElement (splitMarker text).1 profile source with
  | error failure => rfl
  | ok element => rfl

/-- A line without content is laid out as text. -/
theorem parse_of_not_holdsContent {text : List Char}
    (plain : ∀ content, ¬ HoldsContent text content) (profile : Profile) (source : MatrixSource)
    (state : Formatting) :
    Line.parse profile source text state = layText profile text state := by
  have none : ∀ segment ∈ splitSegments text,
      Column.content? ((splitSegments text).length == 1) (splitMarker segment).2 = none := by
    intro segment mem
    -- Of several segments none can be content, and a single one is the line itself.
    cases several : (splitSegments text).length == 1 with
    | false => rfl
    | true =>
        have sole : (splitSegments text).length = 1 := by simpa using several
        rw [splitSegments_of_sole sole, List.mem_singleton] at mem
        rw [mem, ← several, Option.eq_none_iff_forall_not_mem]
        exact fun content found => plain content (content?_eq_some_iff.mp found)
  simp only [Line.parse, layText, parseColumns_eq_layColumns none, owed_eq_mod]

/-- A line that is laid out as text has columns of runs. -/
theorem areRuns_of_layText {profile : Profile} {text : List Char} {state next : Formatting}
    {line : Line} (laid : layText profile text state = .ok (line, next)) :
    line.columns.length = (splitSegments text).length ∧
      ∀ column ∈ line.columns, AreRuns profile.charset column.elements := by
  simp only [layText, Result.bind_eq_ok] at laid
  obtain ⟨columns, done, same⟩ := laid
  cases same
  exact areRuns_of_layColumns done

/-- A line is content or text.  If it holds a content, behind a tag that opens or closes, it is that
element alone, or it fails as the element does.  Otherwise it is laid out as text and fails only
for a character that the charset lacks.  Each column prints something, and a line prints nothing
but text exactly if it holds no content. -/
theorem content_or_text (profile : Profile) (source : MatrixSource) (text : List Char)
    (state : Formatting) :
    (∀ content, HoldsContent text content →
      Line.parse profile source text state =
        (fun element =>
          (⟨[⟨(splitMarker text).1, [element]⟩], profile.charsPerLine, ⟨0, 0⟩⟩, state)) <$>
            content.toElement (splitMarker text).1 profile source) ∧
      ((∀ content, ¬ HoldsContent text content) →
        Line.parse profile source text state = layText profile text state ∧
          ∀ failure, Line.parse profile source text state = .error failure →
            ∃ cause, failure = .encoding cause) ∧
      ∀ line next, Line.parse profile source text state = .ok (line, next) →
        line.columns ≠ [] ∧ (∀ column ∈ line.columns, column.elements ≠ []) ∧
          (line.IsText ↔ ∀ content, ¬ HoldsContent text content) := by
  refine ⟨fun content held => parse_of_holdsContent held profile source state, ?_, ?_⟩
  · intro plain
    have laid := parse_of_not_holdsContent plain profile source state
    refine ⟨laid, fun failure failed => ?_⟩
    rw [laid, layText, Result.bind_eq_error] at failed
    rcases failed with unlaid | ⟨_, -, done⟩
    · exact exists_of_layColumns_eq_error unlaid
    · cases done
  · intro line next parsed
    by_cases some : ∃ content, HoldsContent text content
    · obtain ⟨content, held⟩ := some
      rw [parse_of_holdsContent held, Result.map_eq_ok] at parsed
      obtain ⟨element, made, same⟩ := parsed
      cases same
      refine ⟨List.cons_ne_nil _ _, ?_, iff_of_false ?_ fun plain => plain content held⟩
      · exact List.forall_mem_singleton.mpr (List.cons_ne_nil _ _)
      · intro isText
        have shown := isText element (List.mem_singleton.mpr rfl)
        rw [Content.isText_of_toElement made] at shown
        cases shown
    · have plain : ∀ content, ¬ HoldsContent text content := not_exists.mp some
      rw [parse_of_not_holdsContent plain] at parsed
      obtain ⟨length_eq, runs⟩ := areRuns_of_layText parsed
      refine ⟨?_, fun column mem => (runs column mem).ne_nil, iff_of_true (isText_iff.mpr ?_) plain⟩
      · intro none
        rw [none] at length_eq
        exact splitSegments_ne_nil text (List.length_eq_zero_iff.mp length_eq.symm)
      · intro column beside element held
        obtain ⟨run, rfl, -⟩ := (runs column beside).written element held
        rfl

/-- A line of an image, eight dots wide, at the centre. -/
def dotsText : List Char :=
  "[C] <IMG alt='dots'>1d7630000100010080</img> ".toList

/-- The image of that line. -/
def dots : Content :=
  ⟨.image, [("alt".toList, "dots".toList)], "1d7630000100010080".toList⟩

/-- That line is its image; without the closing tag at its end it would be text. -/
theorem content_or_text_dots :
    HoldsContent dotsText dots ∧
      (∃ placed, Line.parse .mm58 Qr.encode dotsText .initial =
        .ok (⟨[⟨.center, [.image placed]⟩], 32, ⟨0, 0⟩⟩, .initial)) ∧
      (∀ content, ¬ HoldsContent (dotsText ++ ['.']) content) ∧
      Line.parse .mm58 Qr.encode (dotsText ++ ['.']) .initial =
        layText .mm58 (dotsText ++ ['.']) .initial := by
  have written : dots.IsWritten false (Text.trim (splitMarker dotsText).2) :=
    ⟨"IMG alt='dots'".toList, by decide, by decide +kernel, by decide +kernel⟩
  have held : HoldsContent dotsText dots := ⟨by decide +kernel, false, written⟩
  have plain : ∀ content, ¬ HoldsContent (dotsText ++ ['.']) content := by
    have none : Column.content? ((splitSegments (dotsText ++ ['.'])).length == 1)
        (splitMarker (dotsText ++ ['.'])).2 = none := by decide +kernel
    intro content held
    rw [content?_eq_some_iff.mpr held] at none
    cases none
  obtain ⟨placed, made⟩ : ∃ placed, PlacedImage.ofHex dots.body .center .mm58 = .ok placed := by
    have placeable : (PlacedImage.ofHex dots.body .center .mm58).isOk = true := by decide +kernel
    cases made : PlacedImage.ofHex dots.body .center .mm58 with
    | ok placed => exact ⟨placed, rfl⟩
    | error failure =>
        rw [made] at placeable
        cases placeable
  have element : dots.toElement (splitMarker dotsText).1 .mm58 Qr.encode = .ok (.image placed) := by
    change Element.image <$> PlacedImage.ofHex dots.body .center .mm58 = _
    rw [made]
    rfl
  refine ⟨held, ⟨placed, ?_⟩, plain, ((content_or_text _ _ _ _).2.1 plain).1⟩
  rw [(content_or_text _ _ _ _).1 dots held, element]
  rfl

/-- A line that starts with a closing tag of content. -/
def closedTwiceText : List Char :=
  "</img></img>".toList

/-- That line, laid out as the text it is. -/
def closedTwice : Line :=
  let run (text : List Char) : Element := .text ⟨text, .plain, text.length⟩
  ⟨[⟨.left, [run [], run ['<'], run "/img>".toList, run ['<'], run "/img>".toList,
    run (List.replicate 20 ' ')]⟩], 32, ⟨0, 0⟩⟩

/-- No tag that opens starts that line, but it is not laid out as text: it is read as an image,
which it has no bytes for. -/
theorem closing_tag_holds_content :
    splitSegments closedTwiceText = [closedTwiceText] ∧
      (∀ content : Content, ¬ content.IsWritten false (Text.trim (splitMarker closedTwiceText).2)) ∧
      layText .mm58 closedTwiceText .initial = .ok (closedTwice, .initial) ∧
      Line.parse .mm58 Qr.encode closedTwiceText .initial =
        .error (.image (.shortHeader 0)) := by
  refine ⟨by decide, ?_, by decide +kernel, by decide +kernel⟩
  have trimmed : Text.trim (splitMarker closedTwiceText).2 = closedTwiceText := by decide +kernel
  rw [trimmed]
  rintro content ⟨inner, bare, parsed, same⟩
  have span : closeSpan? closedTwiceText.tail =
      some (inner, content.body ++ Content.closingTag content.kind.tagName) :=
    closeSpan?_eq_some_iff.mpr ⟨by simpa [bracketed] using congrArg List.tail same, bare⟩
  have first : closeSpan? closedTwiceText.tail = some ("/img".toList, "</img>".toList) := by
    decide
  obtain ⟨rfl, -⟩ := Prod.mk.inj (Option.some.inj (first.symm.trans span))
  have closes : (Tag.parse (bracketed "/img".toList)).closing = true := by decide +kernel
  rw [parsed] at closes
  cases closes

end Line

end Receipt.Markup
