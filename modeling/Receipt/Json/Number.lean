import Receipt.Json
import Receipt.Number.Decimal

/-!
# The values of JSON numbers

A number without a point and an exponent is an integer, with the exception of a negative zero.  Any
other number is read in double precision: as many leading digits as fit 64 bits are rounded once, and
the product or quotient with the power of ten is rounded again.
-/

set_option autoImplicit false

namespace Receipt.JsonNumber

open Receipt.Number

/-- The greatest 64-bit natural number. -/
def limit64 : Nat :=
  18446744073709551615

/-- The natural number that a number is written as, if it is at most `limit`. -/
def natural? (limit : Nat) (number : JsonNumber) : Option Nat :=
  if number.negative || number.fraction.isSome || number.exponent.isSome then none
  else
    let value := digitsValue number.whole
    if value ≤ limit then some value else none

/-- Read digits behind those already read as long as the number fits 64 bits; also the count of the
digits that are left. -/
def accumulate (significand : Nat) : List Char → Nat × Nat
  | [] => (significand, 0)
  | c :: rest =>
    let next := significand * 10 + (c.toNat - 48)
    if next ≤ limit64 then accumulate next rest else (significand, rest.length + 1)

/-- Scale a double by a power of ten in steps that a double can hold; `none` when it is too large.
A double below every value is zero after two steps, so `fuel` need not be more than three. -/
def scale? (fuel : Nat) (value : Binary) (exponent : Int) : Option Binary :=
  let power (n : Nat) := Binary.ofFraction Format.double false (Nat.pow 10 n) 1
  if exponent.natAbs ≤ 308 then
    if 0 ≤ exponent then
      let product := Binary.mul Format.double value (power exponent.natAbs)
      if product.isFinite then some product else none
    else some (Binary.div Format.double value (power exponent.natAbs))
  else if value.isZero then some value
  else if 0 ≤ exponent then none
  else
    match fuel with
    | 0 => some value
    | fuel + 1 => scale? fuel (Binary.div Format.double value (power 308)) (exponent + 308)

/-- The greatest 32-bit signed integer. -/
def limit32 : Int :=
  2147483647

/-- The magnitude of a number in double precision; `none` when it is too large. -/
def magnitude? (number : JsonNumber) : Option Binary :=
  let whole := accumulate 0 number.whole
  let digits := number.fraction.getD []
  let all := accumulate whole.1 digits
  let place : Int := (whole.2 : Int) - ((digits.length - all.2 : Nat) : Int)
  let start := Binary.ofNat Format.double all.1
  match number.exponent with
  | none => scale? 3 start place
  | some (negative, exponent) =>
    let size : Int := digitsValue exponent
    if limit32 < size then
      if all.1 = 0 || negative then some (Binary.ofNat Format.double 0) else none
    else
      let total := if negative then place - size else place + size
      scale? 3 start (max (-limit32 - 1) (min limit32 total))

/-- The same value with the other sign. -/
def negate : Binary → Binary
  | .nan => .nan
  | .infinite negative => .infinite (!negative)
  | .finite negative significand exponent => .finite (!negative) significand exponent

/-- The single nearest to a number; `none` when it is too large for a double. -/
def single? (number : JsonNumber) : Option Single :=
  let value := digitsValue number.whole
  let isInteger := number.fraction.isNone && number.exponent.isNone
  if isInteger && !number.negative && value ≤ limit64 then some (Single.ofNat value)
  else if isInteger && number.negative && value != 0 && value ≤ 9223372036854775808 then
    some (Single.ofInt (-(value : Int)))
  else
    match number.magnitude? with
    | none => none
    | some magnitude =>
      let double := if number.negative then negate magnitude else magnitude
      some (Binary.convert Format.single double)

end Receipt.JsonNumber
