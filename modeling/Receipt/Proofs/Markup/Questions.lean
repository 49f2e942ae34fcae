import Receipt.Markup.Document

/-!
# Questions to the source of matrices

A source may do more than answer: it may count its questions, keep them, or answer each in its own
way.  So that the questions themselves can be seen, a document is read here with answers that are
actions of any monad.  Every question that is asked is one of these actions, in the order of the
document.  If the source does nothing but answer, this is how documents are read anyway.
-/

set_option autoImplicit false

namespace Receipt.Markup

/-- A source whose answers are actions. -/
abbrev ActiveSource (m : Type → Type) :=
  List Char → ExceptT Failure m Matrix

section

variable {m : Type → Type} [Monad m] {α β : Type}

/-- A result that takes no action. -/
def settled (result : Except Failure α) : ExceptT Failure m α :=
  ExceptT.mk (pure result)

/-- The element of a content; only a QR symbol has a question. -/
def Content.toElementM (content : Content) (alignment : Alignment) (profile : Profile)
    (source : ActiveSource m) : ExceptT Failure m Element :=
  match content.kind with
  | .qr => do
    let size ← settled (readMeasure content.attributes "size" standardQrSize .qrSize)
    let payload := qrPayload content.body
    let matrix ← source payload
    settled do
      let image ← matrix.scale (profile.mmToPx size)
      let placed ← PlacedImage.make image alignment profile
      pure (.qr payload placed)
  | .image => settled (Element.image <$> PlacedImage.ofHex content.body alignment profile)
  | .barcode =>
    settled (Element.barcode <$>
      PlacedBarcode.ofAttributes content.body content.attributes alignment profile)

/-- The column of a segment on `share` characters, with the question of its content. -/
def Column.parseM (profile : Profile) (source : ActiveSource m) (sole : Bool) (share : Nat)
    (segment : List Char) (carry : Carry) (state : Formatting) : ExceptT Failure m ColumnRead :=
  let marked := splitMarker segment
  match Column.content? sole marked.2 with
  | some content => do
    let element ← content.toElementM marked.1 profile source
    pure ⟨⟨marked.1, [element]⟩, carry, state⟩
  | none => settled (Column.ofText profile share marked.1 marked.2 carry state)

namespace Line

/-- The columns of segments from left to right. -/
def parseColumnsM (profile : Profile) (source : ActiveSource m) (sole : Bool) (share : Nat) :
    List (List Char) → Carry → Formatting → ExceptT Failure m (List Column × Carry × Formatting)
  | [], carry, state => pure ([], carry, state)
  | segment :: rest, carry, state => do
    let read ← Column.parseM profile source sole share segment carry state
    let others ← parseColumnsM profile source sole share rest read.carry read.state
    pure (read.column :: others.1, others.2)

/-- A line behind a state of formatting. -/
def parseM (profile : Profile) (source : ActiveSource m) (text : List Char) (state : Formatting) :
    ExceptT Failure m (Line × Formatting) := do
  let segments := splitSegments text
  let count := segments.length
  let share := profile.charsPerLine / count
  let owed := profile.charsPerLine - share * count
  let read ←
    parseColumnsM profile source (count == 1) share segments ⟨Number.signed64 owed, 0⟩ state
  pure (⟨read.1, share, read.2.1⟩, read.2.2)

end Line

namespace Document

/-- Lines, each behind the state of formatting that the one before left. -/
def parseLinesM (profile : Profile) (source : ActiveSource m) (state : Formatting) :
    List (List Char) → ExceptT Failure m (List Line × Formatting)
  | [] => pure ([], state)
  | text :: rest => do
    let read ← Line.parseM profile source text state
    let others ← parseLinesM profile source read.2 rest
    pure (read.1 :: others.1, others.2)

/-- The lines of a document. -/
def parseM (profile : Profile) (source : ActiveSource m) (text : List Char) :
    ExceptT Failure m (List Line) := do
  let read ← parseLinesM profile source Formatting.initial (splitLines text)
  pure read.1

end Document

/-- A settled result is run without an action. -/
theorem run_settled (result : Except Failure α) :
    (settled result : ExceptT Failure m α).run = pure result :=
  rfl

/-- A settled value is that value. -/
theorem settled_ok (value : α) : settled (.ok value) = (pure value : ExceptT Failure m α) :=
  rfl

/-- Where there are no actions, such a result is just a result. -/
theorem settled_injective :
    Function.Injective (settled : Except Failure α → ExceptT Failure Id α) :=
  fun _ _ same => same

/-- A source that does nothing but answer. -/
def ActiveSource.ofSource (source : MatrixSource) : ActiveSource m :=
  fun payload => settled (source payload)

/-- A source that also keeps the questions that it is asked. -/
def ActiveSource.kept (source : MatrixSource) : ActiveSource (StateM (List (List Char))) :=
  fun payload => ExceptT.mk fun asked => (source payload, asked ++ [payload])

/-- One question more is kept, whatever becomes of its answer. -/
theorem ActiveSource.run_kept_bind (source : MatrixSource) (payload : List Char)
    (next : Matrix → Except Failure α) (asked : List (List Char)) :
    (ActiveSource.kept source payload >>= fun matrix => settled (next matrix)).run asked =
      (source payload >>= next, asked ++ [payload]) := by
  unfold ActiveSource.kept
  cases source payload with
  | error failure => rfl
  | ok matrix => rfl

end

section

variable {m : Type → Type} [Monad m] [LawfulMonad m] {α β : Type}

/-- A chain of results that take no action takes none. -/
theorem settled_bind (first : Except Failure α) (next : α → Except Failure β) :
    (settled (first >>= next) : ExceptT Failure m β) =
      settled first >>= fun value => settled (next value) := by
  apply ExceptT.ext
  rw [ExceptT.run_bind, run_settled, run_settled, pure_bind]
  cases first with
  | error failure => rfl
  | ok value => rfl

/-- A change of a settled result is settled. -/
theorem map_settled (f : α → β) (result : Except Failure α) :
    f <$> (settled result : ExceptT Failure m α) = settled (f <$> result) := by
  rw [map_eq_pure_bind, map_eq_pure_bind, settled_bind]
  rfl

variable (profile : Profile) (source : MatrixSource)

/-- A content with a source that only answers has the element that is made of it. -/
theorem Content.toElementM_ofSource (content : Content) (alignment : Alignment) :
    content.toElementM alignment profile (.ofSource source) =
      (settled (content.toElement alignment profile source) : ExceptT Failure m Element) := by
  unfold Content.toElementM Content.toElement
  cases content.kind with
  | image => rfl
  | barcode => rfl
  | qr =>
      simp only [Element.ofQr, settled_bind]
      rfl

/-- A segment with a source that only answers is read as it is anyway. -/
theorem Column.parseM_ofSource (sole : Bool) (share : Nat) (segment : List Char) (carry : Carry)
    (state : Formatting) :
    Column.parseM profile (.ofSource source) sole share segment carry state =
      (settled (Column.parse profile source sole share segment carry state) :
        ExceptT Failure m ColumnRead) := by
  simp only [Column.parseM, Column.parse]
  cases Column.content? sole (splitMarker segment).2 with
  | none => rfl
  | some content =>
      simp only [Content.toElementM_ofSource, settled_bind]
      rfl

/-- Segments with a source that only answers are read as they are anyway. -/
theorem Line.parseColumnsM_ofSource (sole : Bool) (share : Nat) (segments : List (List Char))
    (carry : Carry) (state : Formatting) :
    Line.parseColumnsM profile (.ofSource source) sole share segments carry state =
      (settled (Line.parseColumns profile source sole share segments carry state) :
        ExceptT Failure m _) := by
  induction segments generalizing carry state with
  | nil => rfl
  | cons segment rest ih =>
      simp only [Line.parseColumnsM, Line.parseColumns, Column.parseM_ofSource, ih, settled_bind]
      rfl

/-- A line with a source that only answers is read as it is anyway. -/
theorem Line.parseM_ofSource (text : List Char) (state : Formatting) :
    Line.parseM profile (.ofSource source) text state =
      (settled (Line.parse profile source text state) : ExceptT Failure m _) := by
  simp only [Line.parseM, Line.parse, Line.parseColumnsM_ofSource, settled_bind]
  rfl

/-- Lines with a source that only answers are read as they are anyway. -/
theorem Document.parseLinesM_ofSource (state : Formatting) (texts : List (List Char)) :
    Document.parseLinesM profile (.ofSource source) state texts =
      (settled (Document.parseLines profile source state texts) : ExceptT Failure m _) := by
  induction texts generalizing state with
  | nil => rfl
  | cons text rest ih =>
      simp only [Document.parseLinesM, Document.parseLines, Line.parseM_ofSource, ih, settled_bind]
      rfl

/-- With a source that does nothing but answer, a document is read as it is anyway. -/
theorem Document.parseM_ofSource (text : List Char) :
    Document.parseM profile (.ofSource source) text =
      (settled (Document.parse profile source text) : ExceptT Failure m (List Line)) := by
  simp only [Document.parseM, Document.parse, Document.parseLinesM_ofSource, settled_bind]
  rfl

end

end Receipt.Markup
