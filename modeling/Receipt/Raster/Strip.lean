import Receipt.Raster

/-!
# Strips

A printer without the envelope command prints a picture as strips of 24 rows.  A strip lists its dot
columns from left to right, three bytes each, the highest bit being the topmost dot.  Rows below the
picture are white.
-/

set_option autoImplicit false

namespace Receipt

/-- Twenty-four rows of dots: three bytes for each of `width` columns. -/
structure Strip where
  width : Nat
  columns : List UInt8
  deriving DecidableEq, Repr

namespace Strip

/-- The rows of one strip. -/
def height : Nat :=
  24

/-- The command that prints a strip, with the line feed that moves the paper past it. -/
def bytes (strip : Strip) : List UInt8 :=
  [0x1b, 0x2a, 0x21] ++ Bytes.word strip.width ++ strip.columns ++ [0x0a]

end Strip

namespace Raster

/-- Byte `i` of a strip: the eight rows of third `i % 3` in column `i / 3`. -/
def stripByte (raster : Raster) (strip i : Nat) : UInt8 :=
  Dots.packByte (fun k => raster.isBlack (i / 3) (Strip.height * strip + 8 * (i % 3) + k))

/-- The strip with the given number. -/
def strip (raster : Raster) (strip : Nat) : Strip :=
  ⟨raster.widthPx, (List.range (3 * raster.widthPx)).map (raster.stripByte strip)⟩

/-- The strips of a picture, top to bottom, unless it is too wide for the word in front of each. -/
def toStrips (raster : Raster) : Except Failure (List Strip) :=
  if raster.widthPx ≤ 65535 then
    .ok ((List.range ((raster.rows + (Strip.height - 1)) / Strip.height)).map raster.strip)
  else .error (.image (.tooWideForStrips raster.widthPx))

end Raster

end Receipt
