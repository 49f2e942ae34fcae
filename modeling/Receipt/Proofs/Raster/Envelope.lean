import Receipt.Proofs.Bytes
import Receipt.Proofs.Text
import Receipt.Raster

/-!
# Envelopes and their hexadecimal text

A raster is read back from its envelope, whatever bytes follow that, and from the hexadecimal text of
the envelope in digits of either case.  Both sides of a raster are below 65536, so that the two bytes
of each in the header lose nothing.  A reader of envelopes goes by the sides and the data alone: the
command in front of them, four bytes, may be any.
-/

set_option autoImplicit false

namespace Receipt.Raster

/-- An image is built again from its own data. -/
theorem ofData_data (image : Raster) :
    ofData image.bytesPerRow image.rows image.data = .ok image := by
  have limits : image.bytesPerRow ≤ 65535 ∧ image.rows ≤ 65535 :=
    ⟨image.bytesPerRow_le, image.rows_le⟩
  rw [ofData, dif_pos limits, dif_pos image.size_data]

/-- A raster is read back from its envelope with any bytes behind it. -/
theorem ofEnvelope_toEnvelope (image : Raster) (extra : List UInt8) :
    ofEnvelope (image.toEnvelope ++ extra) = .ok image := by
  have row_length := Bytes.wordValue_ofNat (Nat.lt_succ_of_le image.bytesPerRow_le)
  have count := Bytes.wordValue_ofNat (Nat.lt_succ_of_le image.rows_le)
  have size : image.data.toList.length = image.bytesPerRow * image.rows := by
    rw [Array.length_toList, image.size_data]
  have body : (image.data.toList ++ extra).take (image.bytesPerRow * image.rows) =
      image.data.toList := by
    rw [← size]
    exact List.take_left
  have laid_out : image.toEnvelope ++ extra =
      0x1d :: 0x76 :: 0x30 :: 0x00 ::
        UInt8.ofNat image.bytesPerRow :: UInt8.ofNat (image.bytesPerRow / 256) ::
        UInt8.ofNat image.rows :: UInt8.ofNat (image.rows / 256) ::
        (image.data.toList ++ extra) :=
    rfl
  rw [laid_out]
  simp only [ofEnvelope, row_length, count, body, Array.toArray_toList, image.size_data,
    Nat.lt_irrefl, if_false, ofData_data]

variable {bytes : List UInt8} {image : Raster}

/-- Bytes are too few for a header, or a command, the two sides and the data. -/
theorem length_lt_or_exists_sides (bytes : List UInt8) :
    bytes.length < 8 ∨ ∃ command xLow xHigh yLow yHigh body, command.length = 4 ∧
      bytes = command ++ (xLow :: xHigh :: yLow :: yHigh :: body) := by
  match bytes with
  | a :: b :: c :: d :: xLow :: xHigh :: yLow :: yHigh :: body =>
    exact .inr ⟨[a, b, c, d], xLow, xHigh, yLow, yHigh, body, rfl, rfl⟩
  | [] | [_] | [_, _] | [_, _, _] | [_, _, _, _] | [_, _, _, _, _] | [_, _, _, _, _, _]
  | [_, _, _, _, _, _, _] =>
    left
    simp only [List.length_cons, List.length_nil]
    omega

/-- Fewer bytes than a header has are refused. -/
theorem ofEnvelope_of_length_lt (short : bytes.length < 8) :
    ofEnvelope bytes = .error (.image (.shortHeader bytes.length)) := by
  unfold ofEnvelope
  split
  · simp only [List.length_cons] at short
    omega
  · rfl

/-- Behind a command, whatever it is, the sides and enough data are a raster. -/
theorem ofEnvelope_sides {command : List UInt8} (command_length : command.length = 4)
    (xLow xHigh yLow yHigh : UInt8) (body : List UInt8) :
    let width := Bytes.wordValue xLow xHigh
    let height := Bytes.wordValue yLow yHigh
    if width * height ≤ body.length then
      ∃ image, ofEnvelope (command ++ (xLow :: xHigh :: yLow :: yHigh :: body)) = .ok image ∧
        image.bytesPerRow = width ∧ image.rows = height ∧
        image.data.toList = body.take (width * height)
    else
      ofEnvelope (command ++ (xLow :: xHigh :: yLow :: yHigh :: body)) =
        .error (.image (.shortData width height body.length)) := by
  intro width height
  obtain ⟨a, b, c, d, rfl⟩ : ∃ a b c d, command = [a, b, c, d] := by
    match command, command_length with
    | [a, b, c, d], _ => exact ⟨a, b, c, d, rfl⟩
  have unfolded : ofEnvelope ([a, b, c, d] ++ (xLow :: xHigh :: yLow :: yHigh :: body)) =
      if (body.take (width * height)).toArray.size < width * height then
        .error (.image (.shortData width height body.length))
      else ofData width height (body.take (width * height)).toArray := rfl
  rw [unfolded, List.size_toArray, List.length_take]
  split
  · next enough =>
    have size : (body.take (width * height)).toArray.size = width * height := by
      rw [List.size_toArray, List.length_take, Nat.min_eq_left enough]
    have limits : width ≤ 65535 ∧ height ≤ 65535 :=
      ⟨Nat.le_of_lt_succ (Bytes.wordValue_lt _ _), Nat.le_of_lt_succ (Bytes.wordValue_lt _ _)⟩
    rw [if_neg (by omega), ofData, dif_pos limits, dif_pos size]
    exact ⟨_, rfl, rfl, rfl, rfl⟩
  · next short => rw [if_pos (by omega)]

/-- Whether bytes are a command, the two sides of a raster and at least the data that these declare. -/
def Declares (command bytes : List UInt8) : Prop :=
  ∃ xLow xHigh yLow yHigh body, bytes = command ++ (xLow :: xHigh :: yLow :: yHigh :: body) ∧
    Bytes.wordValue xLow xHigh * Bytes.wordValue yLow yHigh ≤ body.length

/-- A raster that is declared behind any command is read, and its envelope but for the command is in
the bytes. -/
theorem ofEnvelope_of_declares {command : List UInt8} (command_length : command.length = 4)
    (declared : Declares command bytes) :
    ∃ image extra, ofEnvelope bytes = .ok image ∧
      bytes = command ++ (image.toEnvelope.drop 4 ++ extra) := by
  obtain ⟨xLow, xHigh, yLow, yHigh, body, rfl, enough⟩ := declared
  have sides := ofEnvelope_sides command_length xLow xHigh yLow yHigh body
  simp only [if_pos enough] at sides
  obtain ⟨image, read, width, height, data⟩ := sides
  have unfolded : image.toEnvelope.drop 4 =
      Bytes.word image.bytesPerRow ++ (Bytes.word image.rows ++ image.data.toList) := rfl
  refine ⟨image, body.drop (Bytes.wordValue xLow xHigh * Bytes.wordValue yLow yHigh), read, ?_⟩
  rw [unfolded, width, height, data, Bytes.word_wordValue, Bytes.word_wordValue]
  simp only [List.cons_append, List.nil_append, List.take_append_drop]

/-- Bytes that declare no raster are an error of the image. -/
theorem ofEnvelope_of_not_declares
    (other : ∀ command, command.length = 4 → ¬ Declares command bytes) :
    ∃ cause, ofEnvelope bytes = .error (.image cause) := by
  rcases length_lt_or_exists_sides bytes with
    short | ⟨command, xLow, xHigh, yLow, yHigh, body, command_length, rfl⟩
  · exact ⟨_, ofEnvelope_of_length_lt short⟩
  · have sides := ofEnvelope_sides command_length xLow xHigh yLow yHigh body
    simp only at sides
    split at sides
    · next enough =>
      exact absurd ⟨xLow, xHigh, yLow, yHigh, body, rfl, enough⟩ (other command command_length)
    · exact ⟨_, sides⟩

/-- Bytes are read as a raster exactly if they declare one behind some command. -/
theorem ofEnvelope_iff_declares :
    (∃ image, ofEnvelope bytes = .ok image) ↔
      ∃ command, command.length = 4 ∧ Declares command bytes := by
  constructor
  · rintro ⟨image, read⟩
    apply Classical.byContradiction
    intro other
    obtain ⟨cause, failed⟩ := ofEnvelope_of_not_declares
      (fun command command_length declared => other ⟨command, command_length, declared⟩)
    rw [read] at failed
    cases failed
  · rintro ⟨command, command_length, declared⟩
    obtain ⟨image, -, read, -⟩ := ofEnvelope_of_declares command_length declared
    exact ⟨image, read⟩

/-- A raster that was read has its envelope in the bytes, but for the command. -/
theorem exists_append_of_ofEnvelope (read : ofEnvelope bytes = .ok image) :
    ∃ command extra, command.length = 4 ∧
      bytes = command ++ (image.toEnvelope.drop 4 ++ extra) := by
  obtain ⟨command, command_length, declared⟩ := ofEnvelope_iff_declares.mp ⟨image, read⟩
  obtain ⟨same, extra, read_again, laid_out⟩ := ofEnvelope_of_declares command_length declared
  rw [read, Except.ok.injEq] at read_again
  subst read_again
  exact ⟨command, extra, command_length, laid_out⟩

/-- The command of an envelope. -/
def envelopeCommand : List UInt8 :=
  [0x1d, 0x76, 0x30, 0x00]

/-- The envelope of a raster that was read is at the front of the bytes exactly if its command is. -/
theorem toEnvelope_isPrefix_iff (read : ofEnvelope bytes = .ok image) :
    image.toEnvelope <+: bytes ↔ envelopeCommand <+: bytes := by
  have parts : image.toEnvelope = envelopeCommand ++ image.toEnvelope.drop 4 := rfl
  obtain ⟨command, extra, command_length, rfl⟩ := exists_append_of_ofEnvelope read
  constructor
  · intro front
    rw [parts] at front
    exact (List.prefix_append _ _).trans front
  · rintro ⟨behind, whole⟩
    obtain ⟨same, -⟩ := List.append_inj whole command_length.symm
    rw [same] at parts
    have behind_command := (List.prefix_append_right_inj command).mpr
      (List.prefix_append (image.toEnvelope.drop 4) extra)
    rw [← parts] at behind_command
    exact behind_command

/-- A raster is read back from the digits of its envelope in either case. -/
theorem ofHex_of_toLower {image : Raster} {digits : List Char}
    (written : digits.map Char.toLower = image.toHex) : ofHex digits = .ok image := by
  have whole := image.ofEnvelope_toEnvelope []
  rw [List.append_nil] at whole
  rw [ofHex, Text.Hex.decode_of_toLower written]
  exact whole

end Receipt.Raster
