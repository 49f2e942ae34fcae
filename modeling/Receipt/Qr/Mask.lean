import Receipt.Qr.Layout

/-!
# Masks

A mask turns over the free modules of a symbol by a pattern.  Of the eight masks the one with the
lowest penalty is taken, the first one on a tie.  The penalty counts runs of five or more modules of
one colour, blocks of four, patterns that look like a finder with four light modules beside them,
and how far the dark modules are from one half.  It is kept in a word of 16 bits, in which a large
sum starts anew.
-/

set_option autoImplicit false

namespace Receipt.Qr

/-- Whether a mask turns over the module of a place. -/
def maskAt (mask x y : Nat) : Bool :=
  match mask with
  | 0 => (x + y) % 2 == 0
  | 1 => y % 2 == 0
  | 2 => x % 3 == 0
  | 3 => (x + y) % 3 == 0
  | 4 => (x / 3 + y / 2) % 2 == 0
  | 5 => x * y % 2 + x * y % 3 == 0
  | 6 => (x * y % 2 + x * y % 3) % 2 == 0
  | _ => ((x + y) % 2 + x * y % 3) % 2 == 0

/-- The modules of a symbol under a mask, with the fixed modules and the format information. -/
def masked (side : Nat) (places : Array Place) (bits : Array Bool) (mask : Nat) : Array Bool :=
  let format := formatBits mask
  (Array.range (side * side)).map (fun i =>
    match places.getD i (.fixed false) with
    | .fixed dark => dark
    | .format index => format.testBit index
    | .free => bits.getD i false != maskAt mask (i % side) (i / side))

namespace Penalty

/-- The penalty of a run of modules of one colour. -/
def ofRun (length : Nat) : Nat :=
  if 5 ≤ length then length - 2 else 0

/-- The penalty of the runs in a line. -/
def runs (line : List Bool) : Nat :=
  let final := line.foldl
    (fun (state : Nat × Option Bool × Nat) module =>
      if state.2.1 == some module then (state.1, state.2.1, state.2.2 + 1)
      else (state.1 + ofRun state.2.2, some module, 1))
    (0, none, 0)
  final.1 + ofRun final.2.2

/-- The dark and light modules through the middle of a finder. -/
def finderLine : List Bool :=
  [true, false, true, true, true, false, true]

/-- The penalty of the finder patterns in a line: one with four light modules before it or behind
it, the modules outside being light. -/
def finders (line : Array Bool) : Nat :=
  let dark (i : Int) : Bool := if i < 0 then false else line.getD i.toNat false
  let light (start : Int) : Bool :=
    (List.range 4).all (fun k => !dark (start + (k : Int)))
  (List.range (line.size - 6)).foldl
    (fun total i =>
      let isFinder := (List.range 7).map (fun k => line.getD (i + k) false) == finderLine
      if isFinder && (light ((i : Int) - 4) || light ((i : Int) + 7)) then total + 40 else total)
    0

/-- The penalty of the blocks of four modules of one colour. -/
def blocks (side : Nat) (modules : Array Bool) : Nat :=
  (List.range (side - 1)).foldl
    (fun total y =>
      (List.range (side - 1)).foldl
        (fun total x =>
          let i := y * side + x
          let corner := modules.getD i false
          if modules.getD (i + 1) false == corner && modules.getD (i + side) false == corner &&
              modules.getD (i + side + 1) false == corner then total + 3
          else total)
        total)
    0

/-- The penalty of the share of dark modules: its distance from one half in two-hundredths. -/
def balance (modules : Array Bool) : Nat :=
  let dark := modules.foldl (fun count module => if module then count + 1 else count) 0
  distance (200 * dark / modules.size) 100

/-- The sum of all penalties of a symbol. -/
def sum (side : Nat) (modules : Array Bool) : Nat :=
  let lines := (List.range side).foldl
    (fun total i =>
      let row := (Array.range side).map (fun x => modules.getD (i * side + x) false)
      let column := (Array.range side).map (fun y => modules.getD (y * side + i) false)
      total + runs row.toList + runs column.toList + finders row + finders column)
    0
  lines + blocks side modules + balance modules

/-- The penalty by which masks are compared: what the sum exceeds 720 by, the allowance for the two
directions in which finders are looked for, in a word of 16 bits. -/
def score (side : Nat) (modules : Array Bool) : Nat :=
  (sum side modules + 64816) % 65536

end Penalty

/-- The modules of a symbol under the mask with the lowest penalty. -/
def bestMasked (side : Nat) (places : Array Place) (bits : Array Bool) : Array Bool :=
  let first := masked side places bits 0
  ((List.range 7).foldl
    (fun (best : Nat × Array Bool) i =>
      let modules := masked side places bits (i + 1)
      let penalty := Penalty.score side modules
      if penalty < best.1 then (penalty, modules) else best)
    (Penalty.score side first, first)).2

end Receipt.Qr
