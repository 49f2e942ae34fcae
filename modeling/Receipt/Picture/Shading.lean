import Receipt.Number.Binary
import Receipt.Number.Word64
import Receipt.Picture
import Receipt.Raster

/-!
# From colours to dots

A picture is turned into dots in one of two ways.  By threshold, a dot is black when one of its
channels is dark.  By gradient, the sum of the channels is compared, in double precision, with one of
96 levels, which an ordered pattern picks: along a row the coefficient of the pattern moves on by five
and turns around at sixteen, from row to row its start moves on by two and begins anew at sixteen, and
each coefficient has six levels that the rows take in turn.
-/

set_option autoImplicit false

namespace Receipt

/-- How colours become dots. -/
inductive Shading where
  | threshold
  | gradient
  deriving DecidableEq, Repr

namespace Shading

/-- Whether a colour is black by threshold. -/
def isDark (color : Color) : Bool :=
  color.least < 160

/-- The level that a coefficient of the pattern has in a row, as a word of 64 bits. -/
def level (coefficient y : Nat) : Nat :=
  Number.unsigned64 (6 * coefficient + y % 6)

/-- The distance between neighbouring levels, on whose scale level 95 is the sum of white. -/
def levelStep : Number.Binary :=
  Number.Binary.div .double (Number.Binary.ofNat .double 765) (Number.Binary.ofNat .double 95)

/-- The sum of channels that a level stands for. -/
def levelSum (level : Nat) : Number.Binary :=
  Number.Binary.mul .double (Number.Binary.ofNat .double level) levelStep

/-- Whether a colour is black by gradient: its sum lies below that of its level. -/
def inks (color : Color) (coefficient y : Nat) : Bool :=
  Number.Binary.lt (Number.Binary.ofNat .double color.sum) (levelSum (level coefficient y))

/-- The coefficient of the next dot in a row. -/
def nextInRow (coefficient : Nat) : Nat :=
  if 15 < coefficient + 5 then coefficient + 5 - 16 else coefficient + 5

/-- The coefficient at the start of the next row. -/
def nextRow (start : Nat) : Nat :=
  if 15 < start + 2 then 0 else start + 2

/-- The dots of a row of colours from a coefficient on. -/
def rowDots (shading : Shading) (y : Nat) (coefficient : Nat) (colors : List Color) : List Bool :=
  let step (state : Nat × List Bool) (color : Color) : Nat × List Bool :=
    let black := match shading with
      | threshold => isDark color
      | gradient => inks color state.1 y
    (nextInRow state.1, black :: state.2)
  (colors.foldl step (coefficient, [])).2.reverse

/-- The packed rows of a picture from row `y` on, whose pattern starts at a coefficient; `count`
rows are left. -/
def packedRows (shading : Shading) (picture : Picture) (y start count : Nat) :
    List (List UInt8) :=
  match count with
  | 0 => []
  | count + 1 =>
    let colors := (List.range picture.width).map (fun x => picture.colorAt x y)
    Dots.packRow (rowDots shading y start colors).toArray ::
      packedRows shading picture (y + 1) (nextRow start) count

end Shading

namespace Picture

/-- The dots of a picture. -/
def toRaster (picture : Picture) (shading : Shading) : Except Failure Raster :=
  Raster.ofRows ((picture.width + 7) / 8) (shading.packedRows picture 0 0 picture.height)

end Picture

end Receipt
