import Receipt.Number.Binary

/-!
# The shortest decimal text of a binary value

A finite value is written with the fewest significant digits that read back as the same value.  The
decimals that do so form an interval around the value, half a unit of the last place on either side
and a quarter below a power of two; its ends belong to it when the significand is even.  For one
digit, two digits and so on, the two neighbours of the value on that decimal grid are tried, the
nearer one first and the upper one on a tie.  The digits are then written without an exponent.
-/

set_option autoImplicit false

namespace Receipt.Number.Shortest

/-- The interval of decimals that read as one value, in quarters of the value's last place:
`unitNum / unitDen` is such a quarter. -/
structure Interval where
  unitNum : Nat
  unitDen : Nat
  low : Nat
  value : Nat
  high : Nat
  closed : Bool

/-- The interval of decimals that read as `significand * 2 ^ exponent`. -/
def interval (format : Format) (significand : Nat) (exponent : Int) : Interval :=
  let unit := scaleFraction 1 1 (exponent - 2)
  let below := if significand = Nat.pow 2 (format.precision - 1) then 1 else 2
  { unitNum := unit.1
    unitDen := unit.2
    low := 4 * significand - below
    value := 4 * significand
    high := 4 * significand + 2
    closed := significand % 2 == 0 }

/-- A decimal `digits * 10 ^ place` and a multiple of the interval's unit over one denominator. -/
def common (i : Interval) (digits : Nat) (place : Int) (quarters : Nat) : Nat × Nat :=
  if 0 ≤ place then (digits * Nat.pow 10 place.toNat * i.unitDen, quarters * i.unitNum)
  else (digits * i.unitDen, quarters * i.unitNum * Nat.pow 10 (-place).toNat)

/-- Whether a decimal lies in the interval. -/
def contains (i : Interval) (digits : Nat) (place : Int) : Bool :=
  let low := common i digits place i.low
  let high := common i digits place i.high
  if i.closed then low.2 ≤ low.1 && high.1 ≤ high.2 else low.2 < low.1 && high.1 < high.2

/-- How many decimal digits stand before the point, zero or less when the first ones behind it are
zeros; `fuel` bounds the number of those. -/
def leadingPlace (num den fuel : Nat) : Int :=
  match fuel with
  | 0 => 0
  | fuel + 1 =>
    if den ≤ num then ((Nat.toDigits 10 (num / den)).length : Int)
    else leadingPlace (num * 10) den fuel - 1

/-- The first hit on the grids of `count` digits and more; `fuel` bounds the number of grids. -/
def search (i : Interval) (lead : Int) (count fuel : Nat) : Nat × Int :=
  let place := lead - (count : Int)
  let valueNum := i.value * i.unitNum
  let scaled := if 0 ≤ place then (valueNum, i.unitDen * Nat.pow 10 place.toNat)
    else (valueNum * Nat.pow 10 (-place).toNat, i.unitDen)
  let lower := scaled.1 / scaled.2
  match fuel with
  | 0 => (lower, place)
  | fuel + 1 =>
    let lowerIn := contains i lower place
    let upperIn := contains i (lower + 1) place
    let upperNearer := scaled.2 ≤ 2 * (scaled.1 % scaled.2)
    if lowerIn && !(upperIn && upperNearer) then (lower, place)
    else if upperIn then (lower + 1, place)
    else search i lead (count + 1) fuel

/-- The shortest digits of a positive value and the place of the last of them. -/
def digits (format : Format) (significand : Nat) (exponent : Int) : Nat × Int :=
  let i := interval format significand exponent
  let lead := leadingPlace (i.value * i.unitNum) i.unitDen 400
  search i lead 1 20

/-- Write `digits * 10 ^ place` without an exponent and without zeros behind the last digit of a
fraction. -/
def positional (digits : Nat) (place : Int) : List Char :=
  let shown := Nat.toDigits 10 digits
  let significant := (shown.reverse.dropWhile (· == '0')).reverse
  let place := place + ((shown.length - significant.length : Nat) : Int)
  if 0 ≤ place then significant ++ List.replicate place.toNat '0'
  else
    let behind := (-place).toNat
    if behind < significant.length then
      significant.take (significant.length - behind) ++
        '.' :: significant.drop (significant.length - behind)
    else
      '0' :: '.' :: (List.replicate (behind - significant.length) '0' ++ significant)

end Receipt.Number.Shortest

namespace Receipt.Number

/-- The text of a single. -/
def Single.text : Single → String
  | .nan => "NaN"
  | .infinite negative => if negative then "-inf" else "inf"
  | .finite negative significand exponent =>
    let magnitude :=
      if significand = 0 then ['0']
      else
        let shortest := Shortest.digits Format.single significand exponent
        Shortest.positional shortest.1 shortest.2
    String.ofList (if negative then '-' :: magnitude else magnitude)

end Receipt.Number
