/-!
# Binary floating point

A value of a binary format is not a number, a signed infinity, or a signed significand times a
power of two.  A format is three numbers: how many bits a significand has, and the exponent of the
last place of its smallest and of its largest values.  Every operation is the exact rational result
rounded once, to the nearest value of the format and to the even significand on a tie, so an
operation is fixed by `Binary.ofFraction`, which rounds a fraction of natural numbers.
-/

set_option autoImplicit false

namespace Receipt.Number

/-- A binary format: the bits of a significand and the exponents of the last place of its smallest
and of its largest values. -/
structure Format where
  precision : Nat
  minExponent : Int
  maxExponent : Int
  deriving DecidableEq, Repr

namespace Format

/-- The 32-bit format. -/
def single : Format :=
  ⟨24, -149, 104⟩

/-- The 64-bit format. -/
def double : Format :=
  ⟨53, -1074, 971⟩

end Format

/-- Not a number, a signed infinity, or a signed significand times a power of two.  Zero has a
sign. -/
inductive Binary where
  | nan
  | infinite (negative : Bool)
  | finite (negative : Bool) (significand : Nat) (exponent : Int)
  deriving DecidableEq, Repr

/-- The fraction `num / den * 2 ^ shift`, as a numerator and a denominator. -/
def scaleFraction (num den : Nat) (shift : Int) : Nat × Nat :=
  if 0 ≤ shift then (num * Nat.pow 2 shift.toNat, den) else (num, den * Nat.pow 2 (-shift).toNat)

/-- The natural number nearest to `num / den`, the even one on a tie. -/
def roundDiv (num den : Nat) : Nat :=
  let quotient := num / den
  let double := 2 * (num % den)
  if double < den then quotient
  else if den < double then quotient + 1
  else if quotient % 2 = 0 then quotient
  else quotient + 1

namespace Binary

/-- The exponent of the last place of the values of `format` around `num / den`: the leading bit of
the fraction becomes the leading bit of the significand, unless the format ends before. -/
def placeExponent (format : Format) (num den : Nat) : Int :=
  let estimate : Int := (num.log2 : Int) - (den.log2 : Int)
  let scaled := scaleFraction num den (-estimate)
  let lead := if scaled.1 < scaled.2 then estimate - 1 else estimate
  max format.minExponent (lead - ((format.precision : Int) - 1))

/-- The value of `format` nearest to the fraction `num / den` with the given sign.  A fraction past
the largest value becomes infinite. -/
def ofFraction (format : Format) (negative : Bool) (num den : Nat) : Binary :=
  if num = 0 then
    finite negative 0 format.minExponent
  else
    let exponent := placeExponent format num den
    let scaled := scaleFraction num den (-exponent)
    let rounded := roundDiv scaled.1 scaled.2
    let carries := rounded = Nat.pow 2 format.precision
    let significand := if carries then Nat.pow 2 (format.precision - 1) else rounded
    let exponent := if carries then exponent + 1 else exponent
    if format.maxExponent < exponent then infinite negative
    else finite negative significand exponent

/-- The value of `format` nearest to `significand * 2 ^ exponent` with the given sign. -/
def ofDyadic (format : Format) (negative : Bool) (significand : Nat) (exponent : Int) : Binary :=
  let scaled := scaleFraction significand 1 exponent
  ofFraction format negative scaled.1 scaled.2

/-- The value of `format` nearest to a natural number. -/
def ofNat (format : Format) (n : Nat) : Binary :=
  ofFraction format false n 1

/-- The value of `format` nearest to an integer. -/
def ofInt (format : Format) (n : Int) : Binary :=
  ofFraction format (decide (n < 0)) n.natAbs 1

/-- The value of `format` nearest to a value of another format. -/
def convert (format : Format) : Binary → Binary
  | nan => nan
  | infinite negative => infinite negative
  | finite negative significand exponent => ofDyadic format negative significand exponent

/-- Neither infinite nor not a number. -/
def isFinite : Binary → Bool
  | finite _ _ _ => true
  | _ => false

/-- A zero of either sign. -/
def isZero : Binary → Bool
  | finite _ significand _ => significand == 0
  | _ => false

/-- The signed significand of a finite value at a place not above its own. -/
def signedAt (negative : Bool) (significand : Nat) (exponent place : Int) : Int :=
  let magnitude : Int := (significand * Nat.pow 2 (exponent - place).toNat : Nat)
  if negative then -magnitude else magnitude

/-- The rounded sum. -/
def add (format : Format) : Binary → Binary → Binary
  | nan, _ => nan
  | _, nan => nan
  | infinite s, infinite t => if s = t then infinite s else nan
  | infinite s, finite _ _ _ => infinite s
  | finite _ _ _, infinite t => infinite t
  | finite s m e, finite t n f =>
    let place := min e f
    let sum := signedAt s m e place + signedAt t n f place
    if sum = 0 then finite (s && t) 0 format.minExponent
    else ofDyadic format (decide (sum < 0)) sum.natAbs place

/-- The rounded product. -/
def mul (format : Format) : Binary → Binary → Binary
  | nan, _ => nan
  | _, nan => nan
  | infinite s, infinite t => infinite (s != t)
  | infinite s, finite t n _ => if n = 0 then nan else infinite (s != t)
  | finite s m _, infinite t => if m = 0 then nan else infinite (s != t)
  | finite s m e, finite t n f => ofDyadic format (s != t) (m * n) (e + f)

/-- The rounded quotient. -/
def div (format : Format) : Binary → Binary → Binary
  | nan, _ => nan
  | _, nan => nan
  | infinite _, infinite _ => nan
  | infinite s, finite t _ _ => infinite (s != t)
  | finite s _ _, infinite t => finite (s != t) 0 format.minExponent
  | finite s m e, finite t n f =>
    if n = 0 then
      if m = 0 then nan else infinite (s != t)
    else
      let scaled := scaleFraction m n (e - f)
      ofFraction format (s != t) scaled.1 scaled.2

/-- Whether one value is below another; nothing is below or above what is not a number. -/
def lt : Binary → Binary → Bool
  | nan, _ => false
  | _, nan => false
  | infinite s, infinite t => s && !t
  | infinite s, finite _ _ _ => s
  | finite _ _ _, infinite t => !t
  | finite s m e, finite t n f =>
    let place := min e f
    decide (signedAt s m e place < signedAt t n f place)

/-- Whether a value is above zero. -/
def isPositive : Binary → Bool
  | nan => false
  | infinite negative => !negative
  | finite negative significand _ => !negative && significand != 0

/-- The greatest integer not above a finite value. -/
def floorFinite (negative : Bool) (significand : Nat) (exponent : Int) : Int :=
  let signed : Int := if negative then -(significand : Int) else significand
  if 0 ≤ exponent then signed * (Nat.pow 2 exponent.toNat : Nat)
  else signed / (Nat.pow 2 (-exponent).toNat : Nat)

/-- The least and the greatest 32-bit signed integers bound an integer. -/
def clamp32 (n : Int) : Int :=
  max (-2147483648) (min 2147483647 n)

/-- The greatest integer not above a value, kept within 32 signed bits.  What is not a number
counts as zero. -/
def floor32 : Binary → Int
  | nan => 0
  | infinite negative => if negative then -2147483648 else 2147483647
  | finite negative significand exponent => clamp32 (floorFinite negative significand exponent)

end Binary

/-- A value of the 32-bit format. -/
abbrev Single := Binary

namespace Single

/-- The single nearest to a natural number. -/
def ofNat (n : Nat) : Single :=
  Binary.ofNat Format.single n

/-- The single nearest to an integer. -/
def ofInt (n : Int) : Single :=
  Binary.ofInt Format.single n

/-- The single nearest to a fraction. -/
def ofRatio (num den : Nat) : Single :=
  Binary.ofFraction Format.single false num den

/-- The product rounded to single precision. -/
def mul (a b : Single) : Single :=
  Binary.mul Format.single a b

/-- The quotient rounded to single precision. -/
def div (a b : Single) : Single :=
  Binary.div Format.single a b

/-- The integer a measure rounds to, a half going up: one half is added in single precision and the
floor of the sum is taken. -/
def roundHalfUp (a : Single) : Int :=
  Binary.floor32 (Binary.add Format.single a (ofRatio 1 2))

/-- The 32 bits that store a single. -/
def bits : Single → Nat
  | .nan => 0x7fc00000
  | .infinite negative => (if negative then 2147483648 else 0) + 0x7f800000
  | .finite negative significand exponent =>
    let sign := if negative then 2147483648 else 0
    if significand < 8388608 then sign + significand
    else sign + (exponent + 150).toNat * 8388608 + (significand - 8388608)

end Single

end Receipt.Number
