import Receipt.Bytes
import Receipt.Failure
import Receipt.Number.Word64
import Receipt.Raster.Dots
import Receipt.Text.Blank

/-!
# Raster images

A raster is a picture of black and white dots in packed rows, top to bottom.  Its sides fit the two
words of the header it is sent with, and it has exactly the bytes of its rows; both facts belong to
the type.  A raster travels in an envelope, a command of its header and its rows, and in markup as
the hexadecimal text of that envelope.
-/

set_option autoImplicit false

namespace Receipt

/-- A picture of black and white dots in packed rows, top to bottom. -/
structure Raster where
  bytesPerRow : Nat
  rows : Nat
  data : Array UInt8
  bytesPerRow_le : bytesPerRow ≤ 65535
  rows_le : rows ≤ 65535
  size_data : data.size = bytesPerRow * rows
  deriving DecidableEq

namespace Raster

/-- The picture without rows. -/
def empty : Raster :=
  ⟨0, 0, #[], by decide, by decide, by decide⟩

instance : Inhabited Raster :=
  ⟨empty⟩

/-- The picture with the given packed rows, if they fit an envelope and have the right size. -/
def ofData (bytesPerRow rows : Nat) (data : Array UInt8) : Except Failure Raster :=
  if limits : bytesPerRow ≤ 65535 ∧ rows ≤ 65535 then
    if size : data.size = bytesPerRow * rows then
      .ok ⟨bytesPerRow, rows, data, limits.1, limits.2, size⟩
    else .error (.image (.wrongSize bytesPerRow rows data.size))
  else .error (.image (.tooLarge bytesPerRow rows))

/-- The bytes of rows behind those in `data`. -/
def joinRows (data : Array UInt8) (rows : List (List UInt8)) : Array UInt8 :=
  rows.foldl (fun (done : Array UInt8) (row : List UInt8) => done ++ row) data

/-- The picture with the given rows of bytes. -/
def ofRows (bytesPerRow : Nat) (rows : List (List UInt8)) : Except Failure Raster :=
  ofData bytesPerRow rows.length (joinRows #[] rows)

/-- The width in dots. -/
def widthPx (raster : Raster) : Nat :=
  8 * raster.bytesPerRow

/-- Whether the dot `x` to the right of the left end of row `y` is black; a dot outside is white. -/
def isBlack (raster : Raster) (x y : Nat) : Bool :=
  x < raster.widthPx && y < raster.rows &&
    Dots.test (raster.data.getD (y * raster.bytesPerRow + x / 8) 0) (x % 8)

/-- The bytes of one row. -/
def row (raster : Raster) (y : Nat) : List UInt8 :=
  (raster.data.extract (y * raster.bytesPerRow) ((y + 1) * raster.bytesPerRow)).toList

/-- The picture moved to the right by `count` white bytes in front of every row, whose new length
is a word of 64 bits. -/
def padLeft (raster : Raster) (count : Nat) : Except Failure Raster :=
  let length := Number.unsigned64 (raster.bytesPerRow + count)
  if count = 0 then .ok raster
  else if 65535 < length then .error (.image (.tooLarge length raster.rows))
  else
    ofRows length
      ((List.range raster.rows).map (fun y => List.replicate count 0 ++ raster.row y))

/-- The header of an envelope: the command and the two sides. -/
def envelopeHeader (bytesPerRow rows : Nat) : List UInt8 :=
  [0x1d, 0x76, 0x30, 0x00] ++ Bytes.word bytesPerRow ++ Bytes.word rows

/-- The command that prints a picture. -/
def toEnvelope (raster : Raster) : List UInt8 :=
  envelopeHeader raster.bytesPerRow raster.rows ++ raster.data.toList

/-- The picture whose envelope begins a sequence of bytes. -/
def ofEnvelope (bytes : List UInt8) : Except Failure Raster :=
  match bytes with
  | _ :: _ :: _ :: _ :: xLow :: xHigh :: yLow :: yHigh :: body =>
    let bytesPerRow := Bytes.wordValue xLow xHigh
    let rows := Bytes.wordValue yLow yHigh
    let size := bytesPerRow * rows
    let data := (body.take size).toArray
    if data.size < size then .error (.image (.shortData bytesPerRow rows body.length))
    else ofData bytesPerRow rows data
  | _ => .error (.image (.shortHeader bytes.length))

/-- The hexadecimal text of a picture's envelope. -/
def toHex (raster : Raster) : List Char :=
  Text.Hex.encode raster.toEnvelope

/-- The picture that a hexadecimal text holds, blanks around it being ignored. -/
def ofHex (text : List Char) : Except Failure Raster :=
  match Text.Hex.decode (Bytes.ofText (Text.trim text)) with
  | .ok bytes => ofEnvelope bytes
  | .error cause => .error (.image (.badHex cause))

/-- Joined rows stand one after the other. -/
@[simp] theorem toList_joinRows (data : Array UInt8) (rows : List (List UInt8)) :
    (joinRows data rows).toList = data.toList ++ rows.flatten := by
  induction rows generalizing data with
  | nil => simp [joinRows]
  | cons first rest ih =>
      have next : joinRows data (first :: rest) = joinRows (data ++ first) rest := rfl
      simp [next, ih]

end Raster

end Receipt
