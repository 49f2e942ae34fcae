import Receipt.Failure
import Receipt.Number.Decimal

/-!
# Check digits

The digits of a payload are weighted three and one in turn from the right, and the check digit
completes the weighted sum to a multiple of ten.
-/

set_option autoImplicit false

namespace Receipt

/-- The sum of digits weighted `weight`, four minus `weight`, `weight` and so on. -/
def weightedSum (weight : Nat) : List Nat → Nat
  | [] => 0
  | digit :: rest => weight * digit + weightedSum (4 - weight) rest

/-- The number that completes a payload's weighted sum to a multiple of ten. -/
def completion (payload : List Nat) : Nat :=
  (10 - weightedSum 3 payload.reverse % 10) % 10

/-- The values of a text of digits. -/
def digitValues? (text : List Char) : Option (List Nat) :=
  text.mapM Number.digitValue?

/-- The check digit of a payload of decimal digits. -/
def checkDigit (payload : List Char) : Except Failure Char :=
  match digitValues? payload with
  | some digits => .ok (Char.ofNat (48 + completion digits))
  | none => .error (.barcode .notNumeric)

end Receipt
