/-!
# Colour pictures

A picture is a grid of colours in rows, top to bottom.  The type holds the right number of them.
-/

set_option autoImplicit false

namespace Receipt

/-- A colour by its three channels. -/
structure Color where
  red : UInt8
  green : UInt8
  blue : UInt8
  deriving DecidableEq, Repr, Inhabited

namespace Color

/-- The sum of the channels. -/
def sum (color : Color) : Nat :=
  color.red.toNat + color.green.toNat + color.blue.toNat

/-- The least of the channels. -/
def least (color : Color) : Nat :=
  min color.red.toNat (min color.green.toNat color.blue.toNat)

end Color

/-- A grid of colours in rows, top to bottom. -/
structure Picture where
  width : Nat
  height : Nat
  colors : Array Color
  size_colors : colors.size = width * height
  deriving DecidableEq

namespace Picture

/-- The picture with a given colour in every place. -/
def ofFn (width height : Nat) (color : Nat → Nat → Color) : Picture :=
  ⟨width, height, Array.ofFn (fun i : Fin (width * height) => color (i.val % width) (i.val / width)),
    Array.size_ofFn⟩

/-- The colour `x` to the right of the left end of row `y`. -/
def colorAt (picture : Picture) (x y : Nat) : Color :=
  picture.colors.getD (y * picture.width + x) ⟨0, 0, 0⟩

end Picture

end Receipt
