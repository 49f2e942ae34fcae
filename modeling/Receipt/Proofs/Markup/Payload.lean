import Receipt.Proofs.Barcode.Completion
import Receipt.Proofs.Markup.ContentLine
import Receipt.Proofs.Markup.Questions

/-!
# What the body of a content line may say

The body of a QR symbol or of a bar code may have any characters but a line feed, and any text but a
marker that cuts the line: brackets, quotes and whole tags are kept as they are, also the closing tag
of the line.  The source of matrices is asked one question for the line of a QR symbol, and none for
that of a bar code.
-/

set_option autoImplicit false

namespace Receipt

namespace Markup

/-- Whether a text has no marker that cuts a line. -/
def Unmarked (text : List Char) : Prop :=
  ∀ marker ∈ markers, ¬ marker <:+: text

instance (text : List Char) : Decidable (Unmarked text) :=
  inferInstanceAs (Decidable (∀ marker ∈ markers, ¬ marker <:+: text))

/-- Text without brackets has no markers. -/
theorem unmarked_of_not_mem {text : List Char} (bare : '[' ∉ text) : Unmarked text := by
  have bracket : ∀ marker ∈ markers, '[' ∈ marker := by decide
  exact fun marker known inside => bare (inside.subset (bracket marker known))

/-- A character that no marker starts with may stand in front of a text without markers. -/
theorem Unmarked.cons {text : List Char} (h : Unmarked text) {c : Char} (other : c ≠ '[') :
    Unmarked (c :: text) := by
  have bracket : ∀ marker ∈ markers, marker.head? = some '[' := by decide
  intro marker known inside
  rcases List.infix_cons_iff.mp inside with start | behind
  · have head := bracket marker known
    rcases List.prefix_cons_iff.mp start with rfl | ⟨rest, rfl, -⟩
    · cases head
    · exact other (by simpa using head)
  · exact h marker known behind

/-- A character that no marker has keeps what stands on its two sides apart. -/
theorem Unmarked.append_cons {front back : List Char} (h : Unmarked front) (k : Unmarked back)
    {c : Char} (apart : ∀ marker ∈ markers, c ∉ marker) : Unmarked (front ++ c :: back) := by
  intro marker known inside
  rcases List.infix_append_iff.mp inside with left | right | ⟨start, rest, rfl, ends, begins⟩
  · exact h marker known left
  · rcases List.infix_cons_iff.mp right with here | behind
    · rcases List.prefix_cons_iff.mp here with rfl | ⟨rest, rfl, -⟩
      · exact absurd known (by decide)
      · exact apart _ known List.mem_cons_self
    · exact k marker known behind
  · rcases List.prefix_cons_iff.mp begins with rfl | ⟨more, rfl, -⟩
    · rw [List.append_nil] at known
      exact h start known ends.isInfix
    · exact apart _ known (List.mem_append_right _ List.mem_cons_self)

/-- A text without markers does not start with one. -/
theorem Unmarked.not_marked {text : List Char} (h : Unmarked text) : ¬ Marked text := by
  rintro ⟨marker, known, start⟩
  exact h marker known start.isInfix

/-- A text without markers is not cut. -/
theorem Unmarked.uncut {text : List Char} (h : Unmarked text) : Uncut text := by
  rintro front back rfl - ⟨marker, known, start⟩
  exact h marker known (start.isInfix.trans (List.suffix_append front back).isInfix)

/-- A text that is not cut is one segment. -/
theorem length_splitSegments_of_uncut {text : List Char} (uncut : Uncut text) :
    (splitSegments text).length = 1 := by
  have alone : IsCut text [text] :=
    { ne_nil := List.cons_ne_nil _ _
      joined := by rw [List.flatten_singleton]
      marked := List.forall_mem_nil _
      uncut := List.forall_mem_singleton.mpr uncut
      full := fun full => List.forall_mem_singleton.mpr full }
  rw [← alone.eq_splitSegments, List.length_singleton]

/-- A marker at the start of a line, or none, with the alignment that it stands for. -/
def IsMarker (marker : List Char) (alignment : Alignment) : Prop :=
  (marker = [] ∧ alignment = .left) ∨
    ∃ letter, marker = ['[', letter, ']'] ∧ Alignment.ofMarker? letter = some alignment

namespace IsMarker

variable {marker : List Char} {alignment : Alignment}

/-- The marker is taken off, and gives its alignment. -/
theorem splitMarker_append (marks : IsMarker marker alignment) (tail : List Char) :
    splitMarker (marker ++ '<' :: tail) = (alignment, '<' :: tail) := by
  rcases marks with ⟨rfl, rfl⟩ | ⟨letter, rfl, named⟩
  · rfl
  · simp only [List.cons_append, List.nil_append, splitMarker, named]

/-- A marker at the start of a text without markers does not cut it. -/
theorem uncut_append (marks : IsMarker marker alignment) {text : List Char}
    (unmarked : Unmarked text) : Uncut (marker ++ text) := by
  rcases marks with ⟨rfl, -⟩ | ⟨letter, rfl, named⟩
  · exact unmarked.uncut
  · have other : letter ≠ '[' := by
      rintro rfl
      cases named
    -- The marker itself may be one that cuts, but it stands where a line is not cut.
    have behind : Unmarked (letter :: ']' :: text) := (unmarked.cons (by decide)).cons other
    exact (uncut_cons_iff '[' _).mpr ⟨behind.not_marked, behind.uncut⟩

/-- A marker has no line feed. -/
theorem not_mem (marks : IsMarker marker alignment) : '\n' ∉ marker := by
  rcases marks with ⟨rfl, -⟩ | ⟨letter, rfl, named⟩
  · exact List.not_mem_nil
  · have other : '\n' ≠ letter := by
      rintro rfl
      cases named
    simp [other]

end IsMarker

/-- The line of a body between what stands in the brackets of its tag and the closing tag of its kind,
behind a marker or none. -/
def bodyLine (marker inner : List Char) (kind : ContentKind) (body : List Char) : List Char :=
  marker ++ (bracketed inner ++ (body ++ Content.closingTag kind.tagName))

section

variable {marker inner body : List Char} {alignment : Alignment} {kind : ContentKind}
  {attributes : Attributes}

/-- A tag with its body has no blanks around it. -/
theorem trim_tagged (inner body : List Char) (kind : ContentKind) :
    Text.trim (bracketed inner ++ (body ++ Content.closingTag kind.tagName)) =
      bracketed inner ++ (body ++ Content.closingTag kind.tagName) := by
  have ends : bracketed inner ++ (body ++ Content.closingTag kind.tagName) =
      '<' :: (inner ++ '>' :: (body ++ '<' :: '/' :: kind.tagName) ++ ['>']) := by
    simp [bracketed, Content.closingTag]
  have trimmed := Text.trim_between (List.forall_mem_nil _) (List.forall_mem_nil _)
    (inner ++ '>' :: (body ++ '<' :: '/' :: kind.tagName)) (by decide : Text.isBlank '<' = false)
    (by decide : Text.isBlank '>' = false)
  rw [List.nil_append, List.append_nil] at trimmed
  rw [ends, trimmed]

/-- Neither brackets nor names of tags make a marker out of text without markers. -/
theorem unmarked_tagged (inner_unmarked : Unmarked inner) (unmarked : Unmarked body)
    (kind : ContentKind) :
    Unmarked (bracketed inner ++ (body ++ Content.closingTag kind.tagName)) := by
  have closing : Unmarked ('/' :: (kind.tagName ++ ['>'])) :=
    unmarked_of_not_mem (by cases kind <;> decide)
  have body_closed : Unmarked (body ++ '<' :: '/' :: (kind.tagName ++ ['>'])) :=
    unmarked.append_cons closing (by decide)
  have opened : Unmarked ('<' :: inner) := inner_unmarked.cons (by decide)
  have whole := opened.append_cons body_closed (c := '>') (by decide)
  simpa [bracketed, Content.closingTag] using whole

/-- A body without markers is held as it is. -/
theorem holdsContent_bodyLine (marks : IsMarker marker alignment) (bare : '>' ∉ inner)
    (inner_unmarked : Unmarked inner)
    (parsed : Tag.parse (bracketed inner) = ⟨kind.tagName, false, attributes⟩)
    (unmarked : Unmarked body) :
    Line.HoldsContent (bodyLine marker inner kind body) ⟨kind, attributes, body⟩ ∧
      (splitMarker (bodyLine marker inner kind body)).1 = alignment := by
  have split : splitMarker (bodyLine marker inner kind body) =
      (alignment, bracketed inner ++ (body ++ Content.closingTag kind.tagName)) :=
    marks.splitMarker_append _
  refine ⟨⟨?_, false, inner, bare, parsed, ?_⟩, ?_⟩
  · apply length_splitSegments_of_uncut
    exact marks.uncut_append (unmarked_tagged inner_unmarked unmarked kind)
  · rw [split]
    exact trim_tagged inner body kind
  · rw [split]

end

section

variable {m : Type → Type} [Monad m] [LawfulMonad m]

/-- The line of an element that fills it. -/
def Line.ofElement (profile : Profile) (alignment : Alignment) (element : Element) : Line :=
  ⟨[⟨alignment, [element]⟩], profile.charsPerLine, ⟨0, 0⟩⟩

/-- A line of content asks what its content asks. -/
theorem Line.parseM_of_holdsContent {text : List Char} {content : Content}
    (held : Line.HoldsContent text content) (profile : Profile) (source : ActiveSource m)
    (state : Formatting) :
    Line.parseM profile source text state =
      (fun element => (Line.ofElement profile (splitMarker text).1 element, state)) <$>
        content.toElementM (splitMarker text).1 profile source := by
  have found := Line.content?_eq_some_iff.mpr held
  rw [held.sole, beq_self_eq_true] at found
  rw [Line.parseM, splitSegments_of_sole held.sole]
  simp only [List.length_singleton, beq_self_eq_true, parseColumnsM, Column.parseM, found,
    Nat.div_one, Nat.mul_one, Nat.sub_self, map_eq_pure_bind, bind_assoc, pure_bind]
  rfl

/-- A document of one line with content asks what this content asks, and nothing else. -/
theorem Document.parseM_of_holdsContent {text : List Char} {content : Content}
    (one_line : '\n' ∉ text) (held : Line.HoldsContent text content) (profile : Profile)
    (source : ActiveSource m) :
    Document.parseM profile source text =
      (fun element => [Line.ofElement profile (splitMarker text).1 element]) <$>
        content.toElementM (splitMarker text).1 profile source := by
  rw [Document.parseM, splitLines_of_not_mem one_line]
  simp only [parseLinesM, Line.parseM_of_holdsContent held, map_eq_pure_bind, bind_assoc, pure_bind]

variable {marker inner body : List Char} {alignment : Alignment} {kind : ContentKind}
  {attributes : Attributes}

/-- A document that is one body behind its tag has the element of that body, at the alignment of the
marker. -/
theorem Document.parseM_bodyLine (marks : IsMarker marker alignment) (bare : '>' ∉ inner)
    (inner_unmarked : Unmarked inner) (inner_one_line : '\n' ∉ inner)
    (parsed : Tag.parse (bracketed inner) = ⟨kind.tagName, false, attributes⟩)
    (unmarked : Unmarked body) (one_line : '\n' ∉ body) (profile : Profile)
    (source : ActiveSource m) :
    Document.parseM profile source (bodyLine marker inner kind body) =
      (fun element => [Line.ofElement profile alignment element]) <$>
        (Content.mk kind attributes body).toElementM alignment profile source := by
  obtain ⟨held, aligned⟩ := holdsContent_bodyLine marks bare inner_unmarked parsed unmarked
  have whole : '\n' ∉ bodyLine marker inner kind body := by
    have closing : '\n' ∉ Content.closingTag kind.tagName := by cases kind <;> decide
    simp [bodyLine, bracketed, marks.not_mem, inner_one_line, one_line, closing]
  rw [parseM_of_holdsContent whole held, aligned]

/-- A QR tag without a size asks for the payload and makes a symbol of the standard one. -/
theorem Content.toElementM_qr (profile : Profile) (source : ActiveSource m) :
    (Content.mk .qr [] body).toElementM alignment profile source = (do
      let matrix ← source (qrPayload body)
      settled (do
        let image ← matrix.scale (profile.mmToPx standardQrSize)
        let placed ← PlacedImage.make image alignment profile
        pure (.qr (qrPayload body) placed))) := by
  have standard : readMeasure [] "size" standardQrSize .qrSize = .ok standardQrSize := rfl
  simp only [Content.toElementM, standard, settled_ok, pure_bind]

omit [LawfulMonad m] in
/-- A bar code tag with no attribute but its type asks for nothing and has the standard sizes. -/
theorem Content.toElementM_barcode {name : List Char} {symbology : Symbology}
    (named : Symbology.ofName? name = some symbology) (profile : Profile)
    (source : ActiveSource m) :
    (Content.mk .barcode [("type".toList, name)] body).toElementM alignment profile source =
      settled (do
        let barcode ← Barcode.make profile symbology (Text.trim body) (Number.Single.ofNat 0)
          standardBarcodeHeight .below
        pure (.barcode ⟨barcode, alignment, profile.charsPerLine⟩)) := by
  have typed : Attributes.get? [("type".toList, name)] "type" = some name := rfl
  have made : PlacedBarcode.ofAttributes body [("type".toList, name)] alignment profile = (do
      let barcode ← Barcode.make profile symbology (Text.trim body) (Number.Single.ofNat 0)
        standardBarcodeHeight .below
      pure ⟨barcode, alignment, profile.charsPerLine⟩) := by
    simp only [PlacedBarcode.ofAttributes, typed, Option.getD_some, named]
    rfl
  simp only [Content.toElementM, made, map_eq_pure_bind, bind_assoc, pure_bind]

namespace Document

/-- A document that is one body of a QR symbol asks once, for that body. -/
theorem parseM_qr (marks : IsMarker marker alignment) (unmarked : Unmarked body)
    (one_line : '\n' ∉ body) (profile : Profile) (source : ActiveSource m) :
    parseM profile source (bodyLine marker "qrcode".toList .qr body) =
      source (qrPayload body) >>= fun matrix => settled (do
        let image ← matrix.scale (profile.mmToPx standardQrSize)
        let placed ← PlacedImage.make image alignment profile
        pure [Line.ofElement profile alignment (.qr (qrPayload body) placed)]) := by
  have parsed : Tag.parse (bracketed "qrcode".toList) = ⟨ContentKind.qr.tagName, false, []⟩ := by
    decide +kernel
  rw [parseM_bodyLine marks (by decide) (unmarked_of_not_mem (by decide)) (by decide) parsed
    unmarked one_line, Content.toElementM_qr, map_bind]
  refine bind_congr fun matrix => ?_
  rw [map_settled]
  simp only [map_eq_pure_bind, bind_assoc, pure_bind]

/-- A document that is one body of a bar code asks for nothing. -/
theorem parseM_barcode (marks : IsMarker marker alignment) (unmarked : Unmarked body)
    (one_line : '\n' ∉ body) (profile : Profile) (source : ActiveSource m) :
    parseM profile source (bodyLine marker "barcode type='128'".toList .barcode body) =
      settled ((fun made => [Line.ofElement profile alignment
        (.barcode ⟨made, alignment, profile.charsPerLine⟩)]) <$>
          Barcode.make profile .code128 (Text.trim body) (Number.Single.ofNat 0)
            standardBarcodeHeight .below) := by
  have parsed : Tag.parse (bracketed "barcode type='128'".toList) =
      ⟨ContentKind.barcode.tagName, false, [("type".toList, "128".toList)]⟩ := by
    decide +kernel
  have named : Symbology.ofName? "128".toList = some .code128 := by decide
  rw [parseM_bodyLine marks (by decide) (unmarked_of_not_mem (by decide)) (by decide) parsed
    unmarked one_line, Content.toElementM_barcode named, map_settled]
  simp only [map_eq_pure_bind, bind_assoc, pure_bind]

end Document

end

namespace Document

/-- The body of a QR symbol and that of a bar code arrive as they are written.  Take any text without
a line feed and without a marker that cuts a line, behind any marker or none, as the body of a QR tag
without attributes or of a bar code tag of the type 128.

Reading the first document asks the source for nothing but the body without the characters at its
ends that are not above the space, once, and gives the symbol of the matrix that is answered,
20 millimetres wide, as the only element, or fails as the source does or as the making of the
symbol does.  Reading the second asks for nothing and gives the bar code of the body without the
blanks at its ends, or fails as the making of the bar code does. -/
theorem payloads_verbatim (profile : Profile) {marker data : List Char} {alignment : Alignment}
    (marks : IsMarker marker alignment) (one_line : '\n' ∉ data) (unmarked : Unmarked data) :
    let qrText := marker ++ ("<qrcode>".toList ++ (data ++ "</qrcode>".toList))
    let barcodeText := marker ++ ("<barcode type='128'>".toList ++ (data ++ "</barcode>".toList))
    let payload := Text.trimBoth (fun c => c.toNat ≤ 32) data
    let line (element : Element) : List Line := [Line.ofElement profile alignment element]
    let symbol (matrix : Matrix) : Except Failure (List Line) := do
      let image ← matrix.scale (profile.mmToPx (Number.Single.ofNat 20))
      let placed ← PlacedImage.make image alignment profile
      pure (line (.qr payload placed))
    let barcode := Barcode.make profile .code128 (Text.trim data) (Number.Single.ofNat 0)
      (Number.Single.ofNat 10) .below
    let printed (made : Barcode) := line (.barcode ⟨made, alignment, profile.charsPerLine⟩)
    (∀ source : MatrixSource,
      parse profile source qrText = source payload >>= symbol ∧
        parse profile source barcodeText = printed <$> barcode) ∧
      (∀ made, barcode = .ok made → made.code = Text.trim data) ∧
      ∀ {m : Type → Type} [Monad m] [LawfulMonad m] (source : ActiveSource m),
        parseM profile source qrText = (source payload >>= fun matrix => settled (symbol matrix)) ∧
          parseM profile source barcodeText = settled (printed <$> barcode) := by
  intro qrText barcodeText payload line symbol barcode printed
  refine ⟨fun source => ⟨?_, ?_⟩, fun made => Barcode.code_of_make rfl, fun source =>
    ⟨parseM_qr marks unmarked one_line profile source,
      parseM_barcode marks unmarked one_line profile source⟩⟩
  · have read := parseM_qr marks unmarked one_line profile (.ofSource source : ActiveSource Id)
    rw [parseM_ofSource, ActiveSource.ofSource, ← settled_bind] at read
    exact settled_injective read
  · have read := parseM_barcode marks unmarked one_line profile (.ofSource source : ActiveSource Id)
    rw [parseM_ofSource] at read
    exact settled_injective read

/-- A body that looks like markup, with a closing tag and an open quote in it and blanks around it. -/
def lookalike : List Char :=
  " <b>[X]='</qrcode>[l]\t ".toList

/-- Behind a marker for the centre, a source that keeps its questions has only been asked for that
body without the blanks around it, and the bar code has that body, too. -/
theorem payloads_verbatim_lookalike :
    let marker := "[c]".toList
    let qrText := marker ++ ("<qrcode>".toList ++ (lookalike ++ "</qrcode>".toList))
    let barcodeText :=
      marker ++ ("<barcode type='128'>".toList ++ (lookalike ++ "</barcode>".toList))
    let payload := "<b>[X]='</qrcode>[l]".toList
    IsMarker marker .center ∧ '\n' ∉ lookalike ∧ Unmarked lookalike ∧
      (parseM .mm58 (.kept Qr.encode) qrText).run [] =
        (parse .mm58 Qr.encode qrText, [payload]) ∧
      parse .mm58 Qr.encode barcodeText =
        .ok [⟨[⟨.center, [.barcode ⟨⟨.code128, payload, .below, 1, 80⟩, .center, 32⟩]⟩], 32,
          ⟨0, 0⟩⟩] := by
  intro marker qrText barcodeText payload
  have marks : IsMarker marker .center := .inr ⟨'c', rfl, by decide⟩
  have one_line : '\n' ∉ lookalike := by decide
  have unmarked : Unmarked lookalike := by decide +kernel
  obtain ⟨answers, -, active⟩ := payloads_verbatim .mm58 marks one_line unmarked
  obtain ⟨qr, code⟩ := answers Qr.encode
  refine ⟨marks, one_line, unmarked, ?_, code.trans (by decide +kernel)⟩
  rw [(active (.kept Qr.encode)).1, qr]
  have trimmed : Text.trimBoth (fun c => c.toNat ≤ 32) lookalike = payload := by decide +kernel
  rw [trimmed]
  exact ActiveSource.run_kept_bind Qr.encode payload _ []

end Document

end Markup

end Receipt
