import Receipt.Proofs.Markup.Document
import Receipt.Proofs.Session.Printed

/-!
# What a job prints

A job that prints a document on a fresh recorder sends bytes which a printer reads back as the lines
of the document: every byte of every run in the style of the run and a line feed behind each line of
text, and every picture as it is without one.  At the end stands the feed, if one was asked for.
-/

set_option autoImplicit false

namespace Receipt

namespace Markup

/-- The picture of an element that is one. -/
def Element.picture? : Element → Option Raster
  | image placed => some placed.image
  | qr _ placed => some placed.image
  | text _ => none
  | barcode _ => none

/-- The marks of an element: the bytes of a run in its style, or a picture as it is. -/
def Element.marks (charset : Charset) : Element → List Mark
  | text run => (charset.bytesOf run.text).map (fun byte => .cell byte run.style charset.id)
  | image placed => [placed.image.mark]
  | qr _ placed => [placed.image.mark]
  | barcode _ => []

/-- Whether an element is a picture, or a run without control characters among its bytes. -/
def Element.IsPrintable (charset : Charset) : Element → Prop
  | text run => ∀ byte ∈ charset.bytesOf run.text, 0x20 ≤ byte
  | image _ => True
  | qr _ _ => True
  | barcode _ => False

instance (charset : Charset) (element : Element) : Decidable (element.IsPrintable charset) :=
  match element with
  | .text run => inferInstanceAs (Decidable (∀ byte ∈ charset.bytesOf run.text, 0x20 ≤ byte))
  | .image _ => inferInstanceAs (Decidable True)
  | .qr _ _ => inferInstanceAs (Decidable True)
  | .barcode _ => inferInstanceAs (Decidable False)

/-- The marks of a line: those of its elements, and a line feed behind text. -/
def Line.marks (charset : Charset) (line : Line) : List Mark :=
  line.elements.flatMap (Element.marks charset) ++
    if line.IsText then [.paper .lineFeed] else []

/-- The outputs of a printable element leave its marks. -/
theorem Element.marks_outputs {charset : Charset} {element : Element}
    (printable : element.IsPrintable charset) :
    element.outputs.flatMap (Output.marks charset) = element.marks charset := by
  cases element with
  | text run => exact List.append_nil _
  | image placed | qr payload placed => rfl
  | barcode placed => exact printable.elim

/-- The marks of a run are as wide as the run. -/
theorem TextRun.IsWritten.sum_width {charset : Charset} {run : TextRun}
    (written : run.IsWritten charset) :
    (((Element.text run).marks charset).map Mark.width).sum = run.width := by
  rw [written.2, Element.marks, List.map_map]
  induction charset.bytesOf run.text with
  | nil => simp
  | cons byte rest ih =>
      rw [List.map_cons, List.sum_cons, ih, List.length_cons, Nat.succ_mul, Nat.add_comm]
      rfl

namespace AreRuns

variable {charset : Charset} {elements : List Element}

/-- Runs are text. -/
theorem isText (h : AreRuns charset elements) : ∀ element ∈ elements, element.isText = true := by
  intro element mem
  obtain ⟨run, rfl, -⟩ := h.written element mem
  rfl

/-- The marks of runs are as wide as the runs. -/
theorem sum_width (h : AreRuns charset elements) :
    ((elements.flatMap (Element.marks charset)).map Mark.width).sum = totalWidth elements := by
  have written := h.written
  clear h
  induction elements with
  | nil => rfl
  | cons element rest ih =>
      rw [List.forall_mem_cons] at written
      obtain ⟨⟨run, rfl, first⟩, others⟩ := written
      rw [List.flatMap_cons, List.map_append, List.sum_append, ih others, first.sum_width]
      rfl

end AreRuns

namespace Line.Shape

variable {charset : Charset} {line : Line}

/-- A line is ended exactly if it is text. -/
theorem endsWithText_eq_true_iff (h : line.Shape charset) :
    line.endsWithText = true ↔ line.IsText := by
  cases h with
  | text runs =>
      have last := List.getLast?_eq_some_getLast runs.ne_nil
      have shown := runs.isText _ (List.getLast_mem runs.ne_nil)
      rw [Line.endsWithText, last]
      exact ⟨fun _ => runs.isText, fun _ => shown⟩
  | content element sole other =>
      rw [Line.endsWithText, Line.IsText, sole, List.getLast?_singleton, List.forall_mem_singleton]

/-- What the outputs of a line mark is what the line does. -/
theorem marks_outputs (h : line.Shape charset)
    (printable : ∀ element ∈ line.elements, element.IsPrintable charset) :
    line.outputs.flatMap (Output.marks charset) = line.marks charset := by
  have elements : (line.elements.flatMap Element.outputs).flatMap (Output.marks charset) =
      line.elements.flatMap (Element.marks charset) := by
    rw [List.flatMap_assoc, List.flatMap_def, List.flatMap_def]
    congr 1
    exact List.map_congr_left (fun element mem => Element.marks_outputs (printable element mem))
  rw [Line.outputs, List.flatMap_append, elements, Line.marks]
  congr 1
  by_cases text : line.IsText
  · rw [if_pos text, if_pos (h.endsWithText_eq_true_iff.mpr text)]
    rfl
  · rw [if_neg text, if_neg (fun ended => text (h.endsWithText_eq_true_iff.mp ended))]
    rfl

/-- The outputs of a printable line are printable. -/
theorem isPrintable_outputs (h : line.Shape charset)
    (printable : ∀ element ∈ line.elements, element.IsPrintable charset) :
    ∀ output ∈ line.outputs, output.IsPrintable charset := by
  intro output mem
  rcases List.mem_append.mp mem with shown | ended
  · obtain ⟨element, held, asked⟩ := List.mem_flatMap.mp shown
    have form := printable element held
    cases element with
    | text run =>
        rw [List.mem_singleton.mp asked]
        exact ⟨h.encodes held, form⟩
    | image placed | qr payload placed =>
        rw [List.mem_singleton.mp asked]
        trivial
    | barcode placed => exact form.elim
  · split at ended
    · rw [List.mem_singleton.mp ended]
      rfl
    · cases ended

/-- A printable line is text that the charset has, as wide as its marks, or a single picture. -/
theorem isText_or_picture (h : line.Shape charset)
    (printable : ∀ element ∈ line.elements, element.IsPrintable charset) :
    (line.IsText ∧ (∀ run, .text run ∈ line.elements → charset.Encodes run.text) ∧
        ((line.marks charset).map Mark.width).sum = line.width) ∨
      ∃ element image, line.elements = [element] ∧ element.picture? = some image ∧
        line.marks charset = [image.mark] := by
  cases h with
  | text runs =>
      left
      have text : line.IsText := runs.isText
      refine ⟨text, fun run held => runs.encodes held, ?_⟩
      rw [Line.marks, if_pos text, List.map_append, List.sum_append, runs.sum_width,
        line.width_eq_totalWidth]
      rfl
  | content element sole other =>
      right
      have apart : ¬ line.IsText := by
        intro text
        have shown := text element (by rw [sole]; exact List.mem_singleton.mpr rfl)
        rw [other] at shown
        cases shown
      have form := printable element (by rw [sole]; exact List.mem_singleton.mpr rfl)
      have marks : line.marks charset = element.marks charset := by
        rw [Line.marks, if_neg apart, sole, List.flatMap_cons, List.flatMap_nil, List.append_nil,
          List.append_nil]
      rw [marks]
      cases element with
      | text run => cases other
      | barcode placed => exact form.elim
      | image placed => exact ⟨_, placed.image, sole, rfl, rfl⟩
      | qr payload placed => exact ⟨_, placed.image, sole, rfl, rfl⟩

end Line.Shape

end Markup

namespace Session.Printed

variable {profile : Profile} {session : Session Recorder}

/-- The last output of a job succeeds, puts its feed on paper and leaves nothing to send. -/
theorem finish {marks : List Mark} (h : Printed profile marks session) (dots : Nat) :
    ∃ next, (if 0 < dots then Output.feed dots else .flush).run session = .ok () next ∧
      next.sink.pending = [] ∧
      Printed profile
        (marks ++ if 0 < dots then [.paper (.feed (UInt8.ofNat dots))] else []) next := by
  by_cases some : 0 < dots
  · have apart : dots ≠ 0 := by omega
    have form : (Output.feed dots).IsPrintable profile.charset := trivial
    obtain ⟨asked, next, planned, ran, sink, printed⟩ := h.output form
    rw [Output.plan, if_neg apart] at planned
    cases planned
    rw [Output.marks, if_neg apart] at printed
    rw [if_pos some, if_pos some]
    refine ⟨next, ran, ?_, printed⟩
    rw [sink]
    exact Recorder.pending_perform_send [.write (.feed dots)] dots h.connected
  · have form : Output.flush.IsPrintable profile.charset := trivial
    obtain ⟨asked, next, planned, ran, sink, printed⟩ := h.output form
    cases planned
    rw [if_neg some, if_neg some]
    refine ⟨next, ran, ?_, printed⟩
    rw [sink]
    exact Recorder.pending_perform_send [] 0 h.connected

/-- The outputs of a document succeed, leave its marks and its feed, and nothing to send. -/
theorem document (h : Printed profile [] session) {lines : List Markup.Line}
    (shapes : ∀ line ∈ lines, line.Shape profile.charset)
    (printable : ∀ line ∈ lines, ∀ element ∈ line.elements,
      element.IsPrintable profile.charset) (dots : Nat) :
    ∃ next, Output.runAll (Markup.Document.outputs lines dots) session = .ok () next ∧
      next.sink.pending = [] ∧
      Printed profile (lines.flatMap (Markup.Line.marks profile.charset) ++
        if 0 < dots then [.paper (.feed (UInt8.ofNat dots))] else []) next := by
  have front : ∀ output ∈ Output.reset :: lines.flatMap Markup.Line.outputs,
      output.IsPrintable profile.charset := by
    rw [List.forall_mem_cons]
    refine ⟨trivial, fun output mem => ?_⟩
    obtain ⟨line, held, asked⟩ := List.mem_flatMap.mp mem
    exact (shapes line held).isPrintable_outputs (printable line held) output asked
  have marks : (Output.reset :: lines.flatMap Markup.Line.outputs).flatMap
      (Output.marks profile.charset) = lines.flatMap (Markup.Line.marks profile.charset) := by
    have reset : Output.reset.marks profile.charset = [] := rfl
    rw [List.flatMap_cons, reset, List.nil_append, List.flatMap_assoc, List.flatMap_def,
      List.flatMap_def]
    congr 1
    exact List.map_congr_left
      (fun line held => (shapes line held).marks_outputs (printable line held))
  obtain ⟨between, ran, printed⟩ := h.runAll front
  rw [List.nil_append, marks] at printed
  obtain ⟨next, finished, nothing, all⟩ := printed.finish dots
  refine ⟨next, ?_, nothing, all⟩
  -- The last output is kept apart, as the mark of its feed depends on the dots.
  have parts : (Output.runAll (Markup.Document.outputs lines dots) : Action Recorder Unit) =
      (do
        Output.runAll (.reset :: lines.flatMap Markup.Line.outputs)
        (if 0 < dots then Output.feed dots else .flush).run) := by
    rw [← Action.forM_singleton (if 0 < dots then Output.feed dots else .flush) Output.run,
      Output.runAll, Output.runAll, ← Action.forM_append]
    rfl
  simp only [parts, bind, EStateM.bind, ran, finished]

end Session.Printed

namespace Session

/-- A job prints its document.  Let a text be read as lines of text and pictures, none of the bytes
of its texts being a control character.  Then printing it on a fresh recorder succeeds, all that was
written is sent, and a printer, in whatever mode it is, reads the bytes to their end and puts on
paper the marks of the lines in order and of the feed, if one was asked for.  Each of the lines is
text, all of whose characters the charset has and which is as wide as its marks, or a single
picture. -/
theorem printDots_reads_back {profile : Profile} {text : List Char} {lines : List Markup.Line}
    (parsed : Markup.Document.parse profile Qr.encode text = .ok lines)
    (printable : ∀ line ∈ lines, ∀ element ∈ line.elements,
      element.IsPrintable profile.charset) (dots : Nat) :
    ∃ next, Action.printDots text dots (start profile Recorder.fresh) = .ok () next ∧
      next.sink.pending = [] ∧
      (∀ mode : TextMode, (Reader.read next.sink.sent).map mode.marks =
        some (lines.flatMap (Markup.Line.marks profile.charset) ++
          if 0 < dots then [.paper (.feed (UInt8.ofNat dots))] else [])) ∧
      ∀ line ∈ lines,
        (line.IsText ∧ (∀ run, .text run ∈ line.elements → profile.charset.Encodes run.text) ∧
            ((line.marks profile.charset).map Mark.width).sum = line.width) ∨
          ∃ element image, line.elements = [element] ∧ element.picture? = some image ∧
            line.marks profile.charset = [image.mark] := by
  have shapes := Markup.Document.shape_of_parse parsed
  obtain ⟨next, ran, nothing, printed⟩ := (Printed.start profile).document shapes printable dots
  have printed_lines : Action.printDots text dots (start profile Recorder.fresh) =
      Action.printLines lines dots (start profile Recorder.fresh) := by
    have found : Markup.Document.parse (start profile Recorder.fresh).profile Qr.encode text =
        .ok lines := parsed
    rw [Action.printDots, Action.get_bind_apply, found]
    rfl
  have stream : next.sink.stream = next.sink.sent := by
    rw [Recorder.stream, nothing, List.append_nil]
  refine ⟨next, ?_, nothing, ?_, ?_⟩
  · rw [printed_lines, Action.printLines_eq_runAll]
    exact ran
  · intro mode
    rw [← stream]
    exact printed.read_stream mode
  · exact fun line mem => (shapes line mem).isText_or_picture (printable line mem)

/-- A line with a bold letter, and a picture of four black and four white dots. -/
def boldAndPicture : List Char :=
  "<b>a</b>\n<img>1d76300001000100f0</img>".toList

/-- Their lines on paper of 32 characters. -/
def boldAndPictureLines : List Markup.Line :=
  let bold : TextStyle := { TextStyle.plain with weight := .bold }
  let picture : Raster := ⟨1, 1, #[0xf0], by decide, by decide, by decide⟩
  [⟨[⟨.left, [.text ⟨[], .plain, 0⟩, .text ⟨['a'], bold, 1⟩, .text ⟨[], .plain, 0⟩,
      .text ⟨List.replicate 31 ' ', .plain, 31⟩]⟩], 32, ⟨0, 0⟩⟩,
    ⟨[⟨.left, [.image ⟨picture, 1⟩]⟩], 32, ⟨0, 0⟩⟩]

/-- They are read back as a bold cell, plain cells up to the end of the line, a line feed, the
picture and the feed. -/
theorem printDots_reads_back_boldAndPicture :
    let bold : TextStyle := { TextStyle.plain with weight := .bold }
    ∃ next, Action.printDots boldAndPicture 5 (start .mm58 Recorder.fresh) = .ok () next ∧
      next.sink.pending = [] ∧
      ∀ mode : TextMode, (Reader.read next.sink.sent).map mode.marks =
        some (.cell 0x61 bold 6 :: (List.replicate 31 (.cell 0x20 .plain 6) ++
          [.paper .lineFeed, .paper (.picture 1 1 [0xf0]), .paper (.feed 5)])) := by
  have parsed : Markup.Document.parse .mm58 Qr.encode boldAndPicture = .ok boldAndPictureLines := by
    decide +kernel
  obtain ⟨next, ran, nothing, reads, -⟩ := printDots_reads_back parsed (by decide +kernel) 5
  refine ⟨next, ran, nothing, fun mode => ?_⟩
  rw [reads mode]
  decide +kernel

end Session

end Receipt
