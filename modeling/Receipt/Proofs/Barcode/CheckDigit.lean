import Mathlib.Algebra.Ring.Nat
import Receipt.Barcode.CheckDigit

/-!
# The sum that a check digit completes

The digits of a code are weighted by their places, one and three in turn from the right.  The check
digit stands at the last place, so that the weights of the payload start with three, and it is the
only digit with which the sum is a multiple of ten.
-/

set_option autoImplicit false

namespace Receipt

/-! ## Sums of weighted digits -/

/-- The weight of a place, counted from zero at the right. -/
def weightAt (place : Nat) : Nat :=
  if place % 2 = 0 then 1 else 3

/-- The value of a digit. -/
def valueOf (digit : Char) : Nat :=
  digit.toNat - 48

/-- The digits of a text, each with the weight of its place, added up. -/
def controlSum (text : List Char) : Nat :=
  (text.reverse.zipIdx.map (fun place => weightAt place.2 * valueOf place.1)).sum

/-- The weights of neighbouring places add up to four. -/
theorem four_sub_weightAt (place : Nat) : 4 - weightAt place = weightAt (place + 1) := by
  unfold weightAt
  split <;> split <;> omega

/-- Weights in turn are the weights of the places that follow each other. -/
theorem weightedSum_eq (digits : List Char) (place : Nat) :
    weightedSum (weightAt place) (digits.map valueOf) =
      ((digits.zipIdx place).map (fun place => weightAt place.2 * valueOf place.1)).sum := by
  induction digits generalizing place with
  | nil => rfl
  | cons digit rest ih =>
      rw [List.map_cons, weightedSum, four_sub_weightAt, ih, List.zipIdx_cons, List.map_cons,
        List.sum_cons]

/-- A digit at the end of a text has the weight one, and the weights in front of it start with
three. -/
theorem controlSum_concat (payload : List Char) (digit : Char) :
    controlSum (payload ++ [digit]) =
      valueOf digit + weightedSum 3 (payload.map valueOf).reverse := by
  have behind := weightedSum_eq payload.reverse 1
  rw [controlSum, List.reverse_concat, List.zipIdx_cons, List.map_cons, List.sum_cons, ← behind,
    List.map_reverse]
  simp [weightAt]

/-- A payload of values is completed by exactly one value below ten. -/
theorem eq_completion_iff {payload : List Nat} {value : Nat} (small : value < 10) :
    (value + weightedSum 3 payload.reverse) % 10 = 0 ↔ value = completion payload := by
  unfold completion
  omega

/-- A completion is a digit. -/
theorem completion_lt (payload : List Nat) : completion payload < 10 := by
  unfold completion
  omega

/-! ## Digits -/

/-- The value of a digit is less than ten, and the digit is read off it. -/
theorem valueOf_lt {c : Char} (digit : c.isDigit = true) :
    valueOf c < 10 ∧ Char.ofNat (48 + valueOf c) = c := by
  simp only [Char.isDigit, Bool.and_eq_true, decide_eq_true_eq] at digit
  have low : 48 ≤ c.toNat := UInt32.le_iff_toNat_le.mp digit.1
  have high : c.toNat ≤ 57 := UInt32.le_iff_toNat_le.mp digit.2
  unfold valueOf
  refine ⟨by omega, ?_⟩
  rw [Nat.add_sub_cancel' low, Char.ofNat_toNat]

/-- The character of a small value is the digit of that value. -/
theorem valueOf_ofNat {value : Nat} (small : value < 10) :
    (Char.ofNat (48 + value)).isDigit = true ∧ valueOf (Char.ofNat (48 + value)) = value := by
  revert small value
  decide

/-- A text is read as the values of its digits if it holds nothing else. -/
theorem digitValues?_eq (text : List Char) :
    digitValues? text = if text.all Char.isDigit then some (text.map valueOf) else none := by
  unfold digitValues?
  induction text with
  | nil => rfl
  | cons c rest ih =>
      rw [List.mapM_cons, ih, Number.digitValue?, List.all_cons]
      by_cases digit : c.isDigit = true
      · rw [if_pos digit, digit, Bool.true_and]
        by_cases others : rest.all Char.isDigit = true
        · rw [if_pos others, if_pos others]
          rfl
        · rw [if_neg others, if_neg others]
          rfl
      · rw [if_neg digit, Bool.eq_false_iff.mpr digit, Bool.false_and]
        rfl

/-- The digit that completes a payload. -/
def completingDigit (payload : List Char) : Char :=
  Char.ofNat (48 + completion (payload.map valueOf))

/-- A payload of digits has a check digit, and any other payload is refused. -/
theorem checkDigit_eq (payload : List Char) :
    checkDigit payload = if payload.all Char.isDigit then .ok (completingDigit payload)
      else .error (.barcode .notNumeric) := by
  rw [checkDigit, digitValues?_eq]
  by_cases numeric : payload.all Char.isDigit = true
  · rw [if_pos numeric, if_pos numeric]
    rfl
  · rw [if_neg numeric, if_neg numeric]

/-- One digit alone completes the sum of a payload to a multiple of ten. -/
theorem controlSum_concat_iff (payload : List Char) {digit : Char}
    (isDigit : digit.isDigit = true) :
    controlSum (payload ++ [digit]) % 10 = 0 ↔ digit = completingDigit payload := by
  obtain ⟨small, written⟩ := valueOf_lt isDigit
  rw [controlSum_concat, eq_completion_iff small]
  constructor
  · intro value
    rw [completingDigit, ← value, written]
  · intro same
    rw [same]
    exact (valueOf_ofNat (completion_lt _)).2

/-- A check digit is a digit. -/
theorem isDigit_completingDigit (payload : List Char) :
    (completingDigit payload).isDigit = true :=
  (valueOf_ofNat (completion_lt _)).1

end Receipt
