import Receipt.Markup.Content
import Receipt.Proofs.Profile
import Receipt.Proofs.Raster.Envelope
import Receipt.Proofs.Raster.Rows
import Receipt.Proofs.Result
import Receipt.Qr.Symbol

/-!
# Images of markup

The payload of an image tag is read by the sides and the data that it declares; anything else is an
error of the image.  An image is then moved to its place on the paper by whole bytes: every dot goes
the same way to the right, no dot is lost, and no other dot turns black.
-/

set_option autoImplicit false

namespace Receipt.Markup

namespace PlacedImage

/-- An image that is not wider than the paper has room for the bytes it is moved by. -/
theorem shift_fits (image : Raster) (alignment : Alignment) (profile : Profile)
    (within : image.widthPx ≤ profile.widthPx) :
    image.widthPx + 8 * shift image alignment profile ≤ profile.widthPx := by
  cases alignment <;> simp only [shift] <;> omega

/-- No row becomes too long for a word of 64 bits. -/
theorem shift_small (image : Raster) (alignment : Alignment) (profile : Profile) :
    image.bytesPerRow + shift image alignment profile < 18446744073709551616 := by
  have image_small := image.bytesPerRow_le
  have paper_small := profile.widthPx_le
  cases alignment <;> simp only [shift] <;> omega

/-- An image is moved to its place on the paper and is not changed otherwise.  The bytes that it is
moved by are none on the left and where it is as wide as the paper, and else half of those to spare
at the centre, or all of them on the right.  Only an image that becomes too long for an envelope that
way is refused.  Every dot moves eight places for each byte, an image that is not wider than the paper
stays on it, and the width in characters is that of the image before it was moved. -/
theorem make_moves (image : Raster) (alignment : Alignment) (profile : Profile) :
    let spare := ((profile.widthPx : Int) - image.widthPx) / 8
    let bytes := shift image alignment profile
    let charWidth := max profile.charWidthPx 1
    ((bytes : Int) =
      if profile.widthPx ≤ image.widthPx then 0
      else match alignment with
        | .left => 0
        | .center => spare / 2
        | .right => spare) ∧
      if 0 < bytes ∧ 65535 < image.bytesPerRow + bytes then
        make image alignment profile =
          .error (.image (.tooLarge (image.bytesPerRow + bytes) image.rows))
      else
        ∃ placed, make image alignment profile = .ok placed ∧
          placed.image.rows = image.rows ∧
          placed.image.bytesPerRow = image.bytesPerRow + bytes ∧
          (∀ x y, placed.image.isBlack x y = true ↔
            8 * bytes ≤ x ∧ image.isBlack (x - 8 * bytes) y = true) ∧
          (image.widthPx ≤ profile.widthPx → placed.image.widthPx ≤ profile.widthPx) ∧
          placed.width = (image.widthPx + charWidth - 1) / charWidth := by
  intro spare bytes charWidth
  have moves := image.padLeft_moves (shift_small image alignment profile)
  constructor
  · cases alignment with
    | left => simp [bytes, shift]
    | center =>
        simp only [bytes, spare, shift]
        split <;> omega
    | right =>
        simp only [bytes, spare, shift]
        split <;> omega
  · split
    · next long =>
      rw [if_pos long] at moves
      simp only [make]
      rw [moves]
    · next short =>
      rw [if_neg short] at moves
      obtain ⟨moved, moves, rows, bytesPerRow, dots⟩ := moves
      have made : make image alignment profile =
          .ok ⟨moved, (image.widthPx + charWidth - 1) / charWidth⟩ := by
        simp only [make]
        rw [moves]
      refine ⟨_, made, rows, bytesPerRow, fun x y => ?_, fun within => ?_, rfl⟩
      · rw [dots, Bool.and_eq_true, decide_eq_true_eq]
      · have room := shift_fits image alignment profile within
        simp only [Raster.widthPx] at room ⊢
        rw [bytesPerRow]
        omega

end PlacedImage

open Raster (Declares envelopeCommand ofEnvelope)

/-- A payload that is no raster in hexadecimal digits is an error of the image. -/
theorem exists_of_toElement_of_not_declares {body : List Char}
    (other : ∀ payload, Text.Hex.decode (Bytes.ofText (Text.trim body)) = .ok payload →
      ∀ command, command.length = 4 → ¬ Declares command payload)
    (attributes : Attributes) (alignment : Alignment) (profile : Profile) (source : MatrixSource) :
    ∃ cause, Content.toElement ⟨.image, attributes, body⟩ alignment profile source =
      .error (.image cause) := by
  have refused : ∃ cause, Raster.ofHex body = .error (.image cause) := by
    unfold Raster.ofHex
    cases decoded : Text.Hex.decode (Bytes.ofText (Text.trim body)) with
    | error fault => exact ⟨.badHex fault, rfl⟩
    | ok payload => exact Raster.ofEnvelope_of_not_declares (other payload decoded)
  obtain ⟨cause, refused⟩ := refused
  refine ⟨cause, ?_⟩
  have placed : PlacedImage.ofHex body alignment profile = .error (.image cause) := by
    rw [PlacedImage.ofHex, refused]
  rw [Content.toElement, placed]
  rfl

/-- The payload of an image is read by its sides and its data.  Bytes are a raster exactly if they
are four bytes, two sides and at least as much data as these declare.  The bytes then hold the
envelope of the raster but for its command, and all of it exactly if they begin with that command.
All other bytes, and an image tag that does not hold such bytes in hexadecimal digits, are an error
of the image. -/
theorem payload_by_sides (bytes : List UInt8) (body : List Char) (attributes : Attributes)
    (alignment : Alignment) (profile : Profile) (source : MatrixSource) :
    ((∃ image, ofEnvelope bytes = .ok image) ↔
      ∃ command, command.length = 4 ∧ Declares command bytes) ∧
    (∀ image, ofEnvelope bytes = .ok image →
      (∃ command extra, command.length = 4 ∧
        bytes = command ++ (image.toEnvelope.drop 4 ++ extra)) ∧
      (image.toEnvelope <+: bytes ↔ envelopeCommand <+: bytes)) ∧
    ((∀ command, command.length = 4 → ¬ Declares command bytes) →
      ∃ cause, ofEnvelope bytes = .error (.image cause)) ∧
    ((∀ payload, Text.Hex.decode (Bytes.ofText (Text.trim body)) = .ok payload →
        ∀ command, command.length = 4 → ¬ Declares command payload) →
      ∃ cause, Content.toElement ⟨.image, attributes, body⟩ alignment profile source =
        .error (.image cause)) := by
  refine ⟨Raster.ofEnvelope_iff_declares, fun image read => ?_, Raster.ofEnvelope_of_not_declares,
    fun other => ?_⟩
  · exact ⟨Raster.exists_append_of_ofEnvelope read, Raster.toEnvelope_isPrefix_iff read⟩
  · exact exists_of_toElement_of_not_declares other attributes alignment profile source

/-- An envelope of one dot, but with an escape character for the first byte of the command. -/
def escapedDot : List UInt8 :=
  [0x1b, 0x76, 0x30, 0x00, 0x01, 0x00, 0x01, 0x00, 0x80]

/-- These bytes do not begin with the command of an envelope, yet they are read as a raster, whose
envelope is not in them, and an image tag accepts them. -/
theorem other_command_is_read :
    ¬ Declares envelopeCommand escapedDot ∧
      ∃ image, ofEnvelope escapedDot = .ok image ∧ ¬ image.toEnvelope <+: escapedDot ∧
        ∃ width, Content.toElement ⟨.image, [], "1b7630000100010080".toList⟩ .left .mm58 Qr.encode =
          .ok (.image ⟨image, width⟩) := by
  have other : ¬ envelopeCommand <+: escapedDot := by decide
  obtain ⟨image, read⟩ : ∃ image, ofEnvelope escapedDot = .ok image :=
    Raster.ofEnvelope_iff_declares.mpr
      ⟨[0x1b, 0x76, 0x30, 0x00], rfl, 0x01, 0x00, 0x01, 0x00, [0x80], rfl, by decide⟩
  refine ⟨?_, image, read, ?_, ?_⟩
  · rintro ⟨_, _, _, _, _, same, -⟩
    exact other ⟨_, same.symm⟩
  · intro front
    exact other ((Raster.toEnvelope_isPrefix_iff read).mp front)
  · have digits : Text.Hex.decode (Bytes.ofText (Text.trim "1b7630000100010080".toList)) =
        .ok escapedDot := by decide +kernel
    have held : Raster.ofHex "1b7630000100010080".toList = .ok image := by
      rw [Raster.ofHex, digits]
      exact read
    have unmoved : image.padLeft 0 = .ok image := by
      rw [Raster.padLeft, if_pos rfl]
    rw [Content.toElement, PlacedImage.ofHex, held]
    simp only [PlacedImage.make, PlacedImage.shift, unmoved]
    exact ⟨_, rfl⟩

end Receipt.Markup
