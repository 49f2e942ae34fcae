import Receipt.Failure
import Receipt.Number.Binary
import Receipt.Number.Word64
import Receipt.Raster

/-!
# Module matrices

A QR symbol is a square of dark and light modules.  A source turns text into such a square, or
refuses.  To be printed, a matrix is scaled: each module becomes a square block of dots whose side
is the requested size shared among the modules of a row, a half going up.  A size that leaves a
module without a dot gives an empty picture.
-/

set_option autoImplicit false

namespace Receipt

/-- A square of modules in rows, top to bottom; `true` is dark.  Their number is that of the square
as a word of 64 bits. -/
structure Matrix where
  width : Nat
  modules : Array Bool
  size_modules : modules.size = Number.unsigned64 (width * width)
  deriving DecidableEq

/-- What turns text into a matrix. -/
abbrev MatrixSource :=
  List Char → Except Failure Matrix

namespace Matrix

/-- The matrix of the given modules, if they make a square. -/
def ofModules (width : Nat) (modules : Array Bool) : Except Failure Matrix :=
  if size : modules.size = Number.unsigned64 (width * width) then .ok ⟨width, modules, size⟩
  else .error (.barcode (.notSquare width modules.size))

/-- Whether the module `x` to the right of the left end of row `y` is dark; a module outside is
light. -/
def isDark (matrix : Matrix) (x y : Nat) : Bool :=
  x < matrix.width && y < matrix.width &&
    matrix.modules.getD (Number.unsigned64 (y * matrix.width + x)) false

/-- The side of a module's block for a symbol of about `size` dots. -/
def coefficient (matrix : Matrix) (size : Int) : Int :=
  ((Number.Single.ofInt size).div (Number.Single.ofNat matrix.width)).roundHalfUp

/-- The dots of one row of modules whose blocks have the given side. -/
def scaledRow (matrix : Matrix) (side y : Nat) : Array Bool :=
  (Array.range (matrix.width * side)).map (fun x => matrix.isDark (x / side) y)

/-- The picture of a symbol of about `size` dots. -/
def scale (matrix : Matrix) (size : Int) : Except Failure Raster :=
  if matrix.width = 0 ∨ matrix.coefficient size < 1 then .ok .empty
  else
    let side := (matrix.coefficient size).toNat
    let dots := matrix.width * side
    if 65535 < dots then .error (.image (.symbolTooLarge size))
    else
      Raster.ofRows ((dots + 7) / 8)
        ((List.range matrix.width).flatMap
          (fun y => List.replicate side (Dots.packRow (matrix.scaledRow side y))))

end Matrix

end Receipt
