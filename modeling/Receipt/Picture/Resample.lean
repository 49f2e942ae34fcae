import Receipt.Picture

/-!
# Resampling

A picture is brought to another size by weighted means, first down the columns and then along the
rows.  The weights of a mean fall off linearly from its centre to zero one source step away, the
step being the ratio of the sizes when the picture shrinks.  All arithmetic is in single precision
and in the order written here; the channels are rounded only at the end.
-/

set_option autoImplicit false

namespace Receipt.Picture

/-- The weights of one mean: the first place and the weights from there on. -/
structure Mean where
  first : Nat
  weights : Array Float32

namespace Resample

/-- The natural number of a single that is at least zero. -/
def toNat (x : Float32) : Nat :=
  x.toUInt64.toNat

/-- Keep a single between two natural numbers, as a natural number. -/
def clampNat (x : Float32) (least greatest : Nat) : Nat :=
  let low := least.toFloat32
  let high := greatest.toFloat32
  toNat (if x < low then low else if high < x then high else x)

/-- The mean for place `out` when `source` places become `target`. -/
def mean (source target out : Nat) : Mean :=
  let ratio := source.toFloat32 / target.toFloat32
  let step : Float32 := if ratio < 1 then 1 else ratio
  let center := (out.toFloat32 + 0.5) * ratio
  let first := clampNat (center - step).floor 0 (source - 1)
  let last := clampNat (center + step).ceil (first + 1) source
  let middle := center - 0.5
  let weight (i : Nat) : Float32 :=
    let distance := ((first + i).toFloat32 - middle) / step
    let fall := 1 - distance.abs
    if fall < 0 then 0 else fall
  let weights := (Array.range (last - first)).map weight
  let total := weights.foldl (fun sum w => sum + w) (0 : Float32)
  ⟨first, weights.map (fun w => w / total)⟩

/-- Add the weighted values from weight `i` on to a sum; the first weight is that of place
`first`. -/
@[specialize] def addWeighted (value : Nat → Float32) (first : Nat) (weights : Array Float32)
    (i : Nat) (sum : Float32) : Float32 :=
  if inside : i < weights.size then
    addWeighted value first weights (i + 1) (sum + value (first + i) * weights[i])
  else sum
termination_by weights.size - i

/-- The weighted mean of values by place. -/
@[inline] def apply (mean : Mean) (value : Nat → Float32) : Float32 :=
  addWeighted value mean.first mean.weights 0 0

/-- The channel value that a mean rounds to, a half going away from zero. -/
def channel (x : Float32) : UInt8 :=
  let bounded : Float32 := if x < 0 then 0 else if 255 < x then 255 else x
  bounded.round.toUInt8

/-- One channel of a picture brought to another size, as singles in rows of `newWidth`. -/
@[specialize] def resizeChannel (pick : Color → UInt8) (picture : Picture)
    (newWidth newHeight : Nat) : Array Float32 :=
  let width := picture.width
  let rows := (Array.range newHeight).map (mean picture.height newHeight)
  let columns := (Array.range newWidth).map (mean width newWidth)
  let tall := (Array.range (newHeight * width)).map (fun i =>
    let x := i % width
    apply (rows.getD (i / width) ⟨0, #[]⟩) (fun y => (pick (picture.colorAt x y)).toFloat32))
  (Array.range (newHeight * newWidth)).map (fun i =>
    let y := i / newWidth
    apply (columns.getD (i % newWidth) ⟨0, #[]⟩) (fun x => tall.getD (y * width + x) 0))

end Resample

/-- The picture brought to another size.  A picture of the same size is left alone, and one without
colours becomes black. -/
def resize (picture : Picture) (width height : Nat) : Picture :=
  if picture.width = width ∧ picture.height = height then picture
  else if picture.width = 0 ∨ picture.height = 0 then
    ofFn width height (fun _ _ => ⟨0, 0, 0⟩)
  else
    let red := Resample.resizeChannel Color.red picture width height
    let green := Resample.resizeChannel Color.green picture width height
    let blue := Resample.resizeChannel Color.blue picture width height
    ofFn width height (fun x y =>
      let i := y * width + x
      ⟨Resample.channel (red.getD i 0), Resample.channel (green.getD i 0),
        Resample.channel (blue.getD i 0)⟩)

end Receipt.Picture
