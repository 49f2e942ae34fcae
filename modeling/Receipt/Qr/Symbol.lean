import Receipt.Bytes
import Receipt.Qr.Codewords
import Receipt.Qr.Mask
import Receipt.Qr.Matrix

/-!
# QR symbols

A text is written as the smallest QR symbol of the lowest level of error correction that holds its
UTF-8 bytes.  The bytes are cut into segments for three sizes of their length fields in turn, until
the segments fit the largest version with length fields of that size.
-/

set_option autoImplicit false

namespace Receipt.Qr

/-- The version and the segments of bytes, cut for the first of the given versions that has room
for them. -/
def fitSegments? (segments : List Segment) : List Nat → Option (Nat × List Segment)
  | [] => none
  | limit :: rest =>
    let joined := Segment.optimize limit segments
    let bits := Segment.totalBits limit joined
    if bits ≤ Version.capacity limit then
      (Version.smallest? bits).map (fun version => (version, joined))
    else fitSegments? segments rest

/-- The modules of the symbol of a text. -/
def symbolModules (version : Nat) (segments : List Segment) : Array Bool :=
  let side := Version.side version
  let places := places version
  let bits := placeBits side places (visitOrder side) (codewordBits (allCodewords version segments))
  bestMasked side places bits

/-- The symbol of a text. -/
def encode : MatrixSource := fun text =>
  match fitSegments? (Segment.ofBytes (Bytes.ofText text)) [9, 26, 40] with
  | none => .error (.barcode .tooMuchData)
  | some (version, segments) =>
    Matrix.ofModules (Version.side version) (symbolModules version segments)

end Receipt.Qr
