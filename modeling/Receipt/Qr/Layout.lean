import Receipt.Qr.Version

/-!
# The layout of a symbol

Finder, timing and alignment patterns, the format and version information and one dark module have
fixed places.  The codewords fill the other places in columns of two modules, from the right and
upwards first.
-/

set_option autoImplicit false

namespace Receipt.Qr

/-- The distance of two places on one axis. -/
def distance (a b : Nat) : Nat :=
  (a - b) + (b - a)

/-- The greater of the distances of two places on both axes. -/
def ring (x y centerX centerY : Nat) : Nat :=
  max (distance x centerX) (distance y centerY)

/-- The module of a finder pattern and the light border around it. -/
def finder? (side x y : Nat) : Option Bool :=
  let centers := [(3, 3), (side - 4, 3), (3, side - 4)]
  (centers.find? (fun c => ring x y c.1 c.2 ≤ 4)).map
    (fun c => ring x y c.1 c.2 != 2 && ring x y c.1 c.2 != 4)

/-- The centres of the alignment patterns: all pairs of positions but those of the finders. -/
def alignmentCenters (positions : List Nat) (side : Nat) : List (Nat × Nat) :=
  (positions.flatMap (fun x => positions.map (fun y => (x, y)))).filter
    (fun c => !((c.1 == 6 && c.2 == 6) || (c.1 == 6 && c.2 == side - 7) ||
      (c.1 == side - 7 && c.2 == 6)))

/-- The module of an alignment pattern. -/
def alignment? (centers : List (Nat × Nat)) (x y : Nat) : Option Bool :=
  (centers.find? (fun c => ring x y c.1 c.2 ≤ 2)).map (fun c => ring x y c.1 c.2 != 1)

/-- The module of a timing pattern. -/
def timing? (x y : Nat) : Option Bool :=
  if y = 6 then some (x % 2 == 0) else if x = 6 then some (y % 2 == 0) else none

/-- The remainder of a number with `extra` zero bits on division by a polynomial over two elements;
`steps` is the number of those bits. -/
def binaryRemainder (steps extra divisor remainder : Nat) : Nat :=
  match steps with
  | 0 => remainder
  | steps + 1 =>
    let doubled := 2 * remainder
    binaryRemainder steps extra divisor
      (if remainder.testBit (extra - 1) then doubled ^^^ divisor else doubled)

/-- The version information: the version and its twelve check bits. -/
def versionBits (version : Nat) : Nat :=
  4096 * version + binaryRemainder 12 12 0x1f25 version

/-- The module of the version information. -/
def version? (version side x y : Nat) : Option Bool :=
  if version < 7 then none
  else
    let bits := versionBits version
    if x < 6 ∧ side - 11 ≤ y ∧ y < side - 8 then some (bits.testBit (3 * x + (y - (side - 11))))
    else if y < 6 ∧ side - 11 ≤ x ∧ x < side - 8 then
      some (bits.testBit (3 * y + (x - (side - 11))))
    else none

/-- The format information of a mask at the lowest level of error correction: five bits and their
ten check bits under a fixed pattern. -/
def formatBits (mask : Nat) : Nat :=
  let data := 8 + mask
  (1024 * data + binaryRemainder 10 10 0x537 data) ^^^ 0x5412

/-- Which bit of the format information a place holds. -/
def formatIndex? (side x y : Nat) : Option Nat :=
  if x = 8 then
    if y ≤ 5 then some y
    else if y = 7 then some 6
    else if y = 8 then some 7
    else if side - 7 ≤ y then some (y + 15 - side)
    else none
  else if y = 8 then
    if x = 7 then some 8
    else if x ≤ 5 then some (14 - x)
    else if side - 8 ≤ x then some (side - 1 - x)
    else none
  else none

/-- What stands in a place whatever the data: a fixed module, a bit of the format information, or
nothing. -/
inductive Place where
  | fixed (dark : Bool)
  | format (index : Nat)
  | free

/-- What stands in a place of a version. -/
def placeAt (version side : Nat) (centers : List (Nat × Nat)) (x y : Nat) : Place :=
  match formatIndex? side x y with
  | some index => .format index
  | none =>
    if x = 8 ∧ y = side - 8 then .fixed true
    else
      match finder? side x y with
      | some dark => .fixed dark
      | none =>
        match alignment? centers x y with
        | some dark => .fixed dark
        | none =>
          match timing? x y with
          | some dark => .fixed dark
          | none =>
            match version? version side x y with
            | some dark => .fixed dark
            | none => .free

/-- The places of a symbol in rows. -/
def places (version : Nat) : Array Place :=
  let side := Version.side version
  let centers := alignmentCenters (Version.get version).alignment side
  (Array.range (side * side)).map (fun i => placeAt version side centers (i % side) (i / side))

/-- The places in the order in which the codewords visit them, whether they are free or not. -/
def visitOrder (side : Nat) : List (Nat × Nat) :=
  (List.range (side / 2)).flatMap (fun pair =>
    let right := side - 1 - 2 * pair
    let column := if right ≤ 6 then right - 1 else right
    (List.range side).flatMap (fun step =>
      let y := if (pair % 2) = 0 then side - 1 - step else step
      [(column, y), (column - 1, y)]))

/-- The bits of codewords, the highest one of each first. -/
def codewordBits (codewords : List Nat) : List Bool :=
  codewords.flatMap (fun codeword => (List.range 8).map (fun i => codeword.testBit (7 - i)))

/-- Put bits into the free places in the order of a visit; places without a bit stay light. -/
def placeBits (side : Nat) (places : Array Place) (order : List (Nat × Nat)) (bits : List Bool) :
    Array Bool :=
  (order.foldl
    (fun (state : Array Bool × List Bool) place =>
      let i := place.2 * side + place.1
      match places.getD i (.fixed false), state.2 with
      | .free, bit :: rest => (state.1.setIfInBounds i bit, rest)
      | _, _ => state)
    (Array.replicate (side * side) false, bits)).1

end Receipt.Qr
