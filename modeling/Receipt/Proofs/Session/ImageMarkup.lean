import Receipt.CommandLine.Run
import Receipt.Proofs.Markup.Content
import Receipt.Proofs.Raster.Envelope
import Receipt.Proofs.Session.Afresh

/-!
# Images through markup

The markup that is written for an image is a line of content with that image.  Printed, it sends a
reset and the envelope of the image, byte for byte.
-/

set_option autoImplicit false

namespace Receipt

namespace Markup

/-- The markup of an image is its digits between the tags. -/
theorem imageMarkup_eq_taggedLine (image : Raster) :
    CommandLine.imageMarkup image = taggedLine false 0 0 .image image.toHex := by
  have opened : "<img>".toList = '<' :: (ContentKind.image.tagName ++ ['>']) := by decide
  have closed : "</img>".toList = Content.closingTag ContentKind.image.tagName := by decide
  have unfolded : CommandLine.imageMarkup image =
      "<img>".toList ++ image.toHex ++ "</img>".toList := rfl
  rw [unfolded, opened, closed]
  simp [taggedLine, spaced, tagged]

/-- On the left an image is not moved. -/
theorem PlacedImage.ofHex_left (profile : Profile) {image : Raster} {digits : List Char}
    (written : digits.map Char.toLower = image.toHex) :
    ∃ width, PlacedImage.ofHex digits .left profile = .ok ⟨image, width⟩ := by
  have unmoved : image.padLeft 0 = .ok image := by
    rw [Raster.padLeft, if_pos rfl]
  rw [ofHex, Raster.ofHex_of_toLower written]
  simp only [make, shift, unmoved]
  exact ⟨_, rfl⟩

/-- A line that is an image in digits of either case has that image as its only element. -/
theorem Line.parse_image (profile : Profile) (source : MatrixSource) (marked : Bool)
    (before behind : Nat) {image : Raster} {digits : List Char}
    (written : digits.map Char.toLower = image.toHex) (state : Formatting) :
    ∃ line width, Line.parse profile source (taggedLine marked before behind .image digits) state =
        .ok (line, state) ∧
      line.columns = [⟨.left, [.image ⟨image, width⟩]⟩] := by
  have bare : '[' ∉ digits := Text.Hex.not_mem_of_toLower written (by decide)
  obtain ⟨width, held⟩ := PlacedImage.ofHex_left profile written
  have made : Content.toElement ⟨.image, [], digits⟩ .left profile source =
      .ok (.image ⟨image, width⟩) := by
    rw [Content.toElement, held]
    rfl
  obtain ⟨line, parsed, columns⟩ :=
    Line.parse_taggedLine profile source marked before behind bare made state
  exact ⟨line, width, parsed, columns⟩

/-- What is printed for a document of one line that is an image. -/
theorem Document.outputs_image {line : Line} {placed : PlacedImage}
    (columns : line.columns = [⟨.left, [.image placed]⟩]) :
    Document.outputs [line] 0 = [.reset, .image placed.image, .flush] := by
  have elements : line.elements = [.image placed] := by
    rw [Line.elements, columns]
    rfl
  have outputs : line.outputs = [.image placed.image] := by
    rw [Line.outputs, Line.endsWithText, elements]
    rfl
  rw [Document.outputs, List.flatMap_singleton, outputs]
  rfl

end Markup

/-- A document of one line that is an image sends a reset and the envelope of the image. -/
theorem Action.printDots_image {profile : Profile} {text : List Char} {line : Markup.Line}
    {placed : Markup.PlacedImage}
    (parsed : Markup.Document.parse profile Qr.encode text = .ok [line])
    (columns : line.columns = [⟨.left, [.image placed]⟩]) (style : Option TextStyle) :
    ∃ next, printDots text 0 ⟨profile, Recorder.fresh, style, false⟩ = .ok () next ∧
      next.sink.sent = [0x1b, 0x40] ++ placed.image.toEnvelope ∧ next.sink.pending = [] := by
  let session : Session Recorder := ⟨profile, Recorder.fresh, style, false⟩
  let job := PrintJob.byDots text 0
  have listed : job.outputs profile [line] = [.reset, .image placed.image, .flush] := by
    rw [PrintJob.outputs, PrintJob.ending, List.append_nil]
    exact Markup.Document.outputs_image columns
  have planned : Output.planAll profile false style (job.outputs profile [line]) =
      .ok ⟨none, [.write .reset, .write (.raster placed.image), .send 0, .send 0]⟩ := by
    rw [listed]
    rfl
  have connected : session.isConnected = true := rfl
  obtain ⟨recorder, made, stream, nothing⟩ := PrintJob.perform_moves planned connected
  have ran := (Output.runAll_eq_ok connected).mpr
    ⟨_, planned, Action.fulfil_eq_ok.mpr ⟨recorder, made, rfl⟩⟩
  refine ⟨_, (job.run_of_parse_ok parsed).trans ran, ?_, nothing⟩
  rw [Recorder.sent_eq_stream nothing, stream]
  change [0x1b, 0x40] ++ (placed.image.toEnvelope ++ []) = _
  rw [List.append_nil]

namespace Session

/-- An image survives its markup.  Take any image in hexadecimal digits of either case between image
tags, with any number of spaces around them, and an alignment marker to the left in front or none.
For every profile and behind every state of formatting this line has one column, and in it that image
alone.  Printed without a feed on a fresh recorder, whatever style was set last, it sends a reset and
the envelope of the image.  The markup written for an image is such a line.  So the image is read
back from its envelope, whatever follows that, and from its hexadecimal text. -/
theorem image_markup_survives (profile : Profile) (image : Raster) {digits : List Char}
    (written : digits.map Char.toLower = image.toHex) (marked : Bool) (before behind : Nat) :
    let text := Markup.taggedLine marked before behind .image digits
    (∀ (source : MatrixSource) (state : Markup.Formatting), ∃ line width,
      Markup.Line.parse profile source text state = .ok (line, state) ∧
        line.columns = [⟨.left, [.image ⟨image, width⟩]⟩]) ∧
    (∀ style, ∃ next,
      Action.printDots text 0 ⟨profile, Recorder.fresh, style, false⟩ = .ok () next ∧
        next.sink.sent = [0x1b, 0x40] ++ image.toEnvelope ∧ next.sink.pending = []) ∧
    CommandLine.imageMarkup image = Markup.taggedLine false 0 0 .image image.toHex ∧
    (∀ extra, Raster.ofEnvelope (image.toEnvelope ++ extra) = .ok image) ∧
    Raster.ofHex image.toHex = .ok image := by
  intro text
  refine ⟨?_, ?_, ?_, image.ofEnvelope_toEnvelope, ?_⟩
  · intro source state
    exact Markup.Line.parse_image profile source marked before behind written state
  · intro style
    have bare : '\n' ∉ digits := Text.Hex.not_mem_of_toLower written (by decide)
    obtain ⟨line, width, parsed, columns⟩ :=
      Markup.Line.parse_image profile Qr.encode marked before behind written .initial
    have document : Markup.Document.parse profile Qr.encode text = .ok [line] := by
      rw [Markup.Document.parse, Markup.splitLines_taggedLine marked before behind .image bare]
      simp only [Markup.Document.parseLines, parsed]
      rfl
    exact Action.printDots_image document columns style
  · exact Markup.imageMarkup_eq_taggedLine image
  · exact Raster.ofHex_of_toLower (Text.Hex.toLower_encode image.toEnvelope)

/-- A picture of three rows of sixteen dots. -/
def threeRows : Raster :=
  ⟨2, 3, #[0xaf, 0x0c, 0x01, 0xfe, 0x00, 0x80], by decide, by decide, by decide⟩

/-- Its markup with spaces, a marker and digits of both cases sends its envelope. -/
theorem image_markup_survives_threeRows :
    let digits := "1D76300002000300Af0c01fE0080".toList
    digits.map Char.toLower = threeRows.toHex ∧ ∃ next,
      Action.printDots "[L]  <img>1D76300002000300Af0c01fE0080</img> ".toList 0
          (start .mm58 Recorder.fresh) = .ok () next ∧
        next.sink.sent =
          [0x1b, 0x40, 0x1d, 0x76, 0x30, 0x00, 0x02, 0x00, 0x03, 0x00,
            0xaf, 0x0c, 0x01, 0xfe, 0x00, 0x80] := by
  intro digits
  have written : digits.map Char.toLower = threeRows.toHex := by
    decide +kernel
  have spelled : "[L]  <img>1D76300002000300Af0c01fE0080</img> ".toList =
      Markup.taggedLine true 2 1 .image digits := by
    decide +kernel
  obtain ⟨-, printed, -⟩ := image_markup_survives .mm58 threeRows written true 2 1
  obtain ⟨next, ran, sent, -⟩ := printed none
  rw [spelled]
  exact ⟨written, next, ran, sent⟩

end Session

end Receipt
