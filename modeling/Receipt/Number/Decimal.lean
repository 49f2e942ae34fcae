import Receipt.Number.Binary
import Receipt.Number.Digits

/-!
# Decimal text

How numbers are read from text.  A natural number is decimal digits after an optional plus sign, and
has a limit.  A single is an optional sign before `inf`, `infinity` or `nan` in any case, or before
digits with at most one point among them and an optional exponent; it is rounded once, from the
exact decimal value.
-/

set_option autoImplicit false

namespace Receipt.Number

/-- The value of a decimal digit. -/
def digitValue? (c : Char) : Option Nat :=
  if c.isDigit then some (c.toNat - 48) else none

/-- The number that a sequence of decimal digits writes. -/
def digitsValue (digits : List Char) : Nat :=
  ofDigits 10 (digits.reverse.map (fun c => c.toNat - 48))

/-- Read a natural number of at most `limit`: decimal digits after an optional plus sign. -/
def readNat? (limit : Nat) (text : List Char) : Option Nat :=
  let digits := match text with
    | '+' :: rest => rest
    | _ => text
  if digits.isEmpty || !digits.all Char.isDigit then none
  else
    let value := digitsValue digits
    if value ≤ limit then some value else none

/-- Read an integer between two bounds: decimal digits after an optional sign. -/
def readInt? (least greatest : Int) (text : List Char) : Option Int :=
  let signed := match text with
    | '+' :: rest => (false, rest)
    | '-' :: rest => (true, rest)
    | _ => (false, text)
  if signed.2.isEmpty || !signed.2.all Char.isDigit then none
  else
    let magnitude : Int := digitsValue signed.2
    let value := if signed.1 then -magnitude else magnitude
    if least ≤ value && value ≤ greatest then some value else none

/-- A decimal exponent past every value of the formats in use; beyond it a number is infinite or
zero without being computed. -/
def decimalBound : Int :=
  400

/-- The value of `format` nearest to `significand * 10 ^ exponent` with the given sign. -/
def Binary.ofDecimal (format : Format) (negative : Bool) (significand : Nat) (exponent : Int) :
    Binary :=
  if significand = 0 then ofFraction format negative 0 1
  else
    let digits : Int := (Nat.log2 significand / 3 : Nat)
    if decimalBound < exponent then infinite negative
    else if exponent + digits + 1 < -decimalBound then ofFraction format negative 0 1
    else if 0 ≤ exponent then
      ofFraction format negative (significand * Nat.pow 10 exponent.toNat) 1
    else
      ofFraction format negative significand (Nat.pow 10 (-exponent).toNat)

/-- The number that the digits of an exponent write.  Once it has reached 65536 further digits are
ignored. -/
def exponentValue (digits : List Char) : Nat :=
  digits.foldl (fun value c => if value < 65536 then value * 10 + (c.toNat - 48) else value) 0

/-- Read an exponent: nothing, or `e` in either case, an optional sign and digits. -/
def readExponent? (text : List Char) : Option Int :=
  match text with
  | [] => some 0
  | mark :: rest =>
    if mark = 'e' || mark = 'E' then
      let signed := match rest with
        | '+' :: digits => (false, digits)
        | '-' :: digits => (true, digits)
        | _ => (false, rest)
      if signed.2.isEmpty || !signed.2.all Char.isDigit then none
      else
        let magnitude : Int := exponentValue signed.2
        some (if signed.1 then -magnitude else magnitude)
    else none

/-- The letters of a text, ignoring the case of the ASCII ones. -/
def foldAscii (text : List Char) : List Char :=
  text.map Char.toLower

/-- Read an unsigned number in decimal notation. -/
def readMagnitude? (format : Format) (negative : Bool) (text : List Char) : Option Binary :=
  let whole := text.takeWhile Char.isDigit
  let afterWhole := text.dropWhile Char.isDigit
  let fraction := match afterWhole with
    | '.' :: rest => rest.takeWhile Char.isDigit
    | _ => []
  let tail := match afterWhole with
    | '.' :: rest => rest.dropWhile Char.isDigit
    | _ => afterWhole
  if whole.isEmpty && fraction.isEmpty then none
  else
    match readExponent? tail with
    | none => none
    | some exponent =>
      let significand := digitsValue (whole ++ fraction)
      some (Binary.ofDecimal format negative significand (exponent - (fraction.length : Int)))

/-- Read a single. -/
def Single.read? (text : List Char) : Option Single :=
  let signed := match text with
    | '+' :: rest => (false, rest)
    | '-' :: rest => (true, rest)
    | _ => (false, text)
  let word := foldAscii signed.2
  if word = "inf".toList || word = "infinity".toList then some (.infinite signed.1)
  else if word = "nan".toList then some .nan
  else readMagnitude? Format.single signed.1 signed.2

end Receipt.Number
