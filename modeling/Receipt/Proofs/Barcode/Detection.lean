import Receipt.Proofs.Barcode.CheckDigit

/-!
# What a check digit detects

A check digit depends on the weighted sum of its payload alone, modulo ten.  The weights are one and
three, which have no factor in common with ten, so that a change of one digit is always seen.  The
weights of neighbours are two apart, so that an exchange of neighbours is seen unless five divides
their difference.  Zeros in front of a payload add nothing.
-/

set_option autoImplicit false

namespace Receipt

/-! ## The weights of parts -/

/-- Digits behind others have the weights of the places behind those. -/
theorem weightedSum_append (place : Nat) (front back : List Nat) :
    weightedSum (weightAt place) (front ++ back) =
      weightedSum (weightAt place) front + weightedSum (weightAt (place + front.length)) back := by
  induction front generalizing place with
  | nil => exact (Nat.zero_add _).symm
  | cons digit rest ih =>
      have places : place + 1 + rest.length = place + (digit :: rest).length := by
        rw [List.length_cons]
        omega
      rw [List.cons_append, weightedSum, weightedSum, four_sub_weightAt, ih, places, Nat.add_assoc]

/-- A weighted sum is at most as large as if all digits were nines with the weight three. -/
theorem weightedSum_le (place : Nat) {digits : List Nat} (small : ∀ digit ∈ digits, digit < 10) :
    weightedSum (weightAt place) digits ≤ 27 * digits.length := by
  induction digits generalizing place with
  | nil => exact Nat.le_refl 0
  | cons digit rest ih =>
      rw [List.forall_mem_cons] at small
      have others := ih (place + 1) small.2
      have weight : weightAt place ≤ 3 := by
        unfold weightAt
        split <;> omega
      have first : weightAt place * digit ≤ 3 * 9 := Nat.mul_le_mul weight (by omega)
      rw [weightedSum, four_sub_weightAt, List.length_cons]
      omega

/-- The weighted sum of the digits of a payload. -/
def payloadSum (payload : List Char) : Nat :=
  weightedSum 3 (payload.map valueOf).reverse

/-- A digit counts with the weight of its place from the right, where the check digit stands behind
the payload. -/
theorem payloadSum_append_cons (front : List Char) (digit : Char) (back : List Char) :
    payloadSum (front ++ digit :: back) =
      payloadSum back + weightAt (back.length + 1) * valueOf digit +
        weightedSum (weightAt (back.length + 2)) (front.map valueOf).reverse := by
  have split : ((front ++ digit :: back).map valueOf).reverse =
      (back.map valueOf).reverse ++ valueOf digit :: (front.map valueOf).reverse := by
    simp
  have parts := weightedSum_append 1 (back.map valueOf).reverse
    (valueOf digit :: (front.map valueOf).reverse)
  rw [List.length_reverse, List.length_map, weightedSum.eq_2, four_sub_weightAt,
    Nat.add_comm 1 back.length, ← Nat.add_assoc] at parts
  rw [payloadSum, split]
  exact parts

/-- Zeros in front of a payload add nothing. -/
theorem payloadSum_zeros (count : Nat) (payload : List Char) :
    payloadSum (List.replicate count '0' ++ payload) = payloadSum payload := by
  induction count with
  | zero => rfl
  | succ count ih =>
      have first := payloadSum_append_cons [] '0' (List.replicate count '0' ++ payload)
      rw [List.replicate_succ, List.cons_append]
      exact first.trans ih

/-! ## The check digits of payloads -/

/-- Check digits are the same exactly if the weighted sums are the same modulo ten. -/
theorem completingDigit_eq_iff (payload other : List Char) :
    completingDigit payload = completingDigit other ↔
      payloadSum payload % 10 = payloadSum other % 10 := by
  have values : completingDigit payload = completingDigit other ↔
      completion (payload.map valueOf) = completion (other.map valueOf) := by
    constructor
    · intro same
      have read := congrArg valueOf same
      unfold completingDigit at read
      rwa [(valueOf_ofNat (completion_lt _)).2, (valueOf_ofNat (completion_lt _)).2] at read
    · intro same
      rw [completingDigit, completingDigit, same]
  rw [values]
  unfold completion payloadSum
  omega

/-- A payload of digits has a check digit. -/
theorem checkDigit_of_digits {payload : List Char} (digits : ∀ c ∈ payload, c.isDigit = true) :
    checkDigit payload = .ok (completingDigit payload) := by
  rw [checkDigit_eq, if_pos (List.all_eq_true.mpr digits)]

/-- Another digit at a place changes the sum modulo ten. -/
theorem payloadSum_replaced (front : List Char) {old new : Char} (back : List Char)
    (old_digit : old.isDigit = true) (new_digit : new.isDigit = true) (other : new ≠ old) :
    payloadSum (front ++ new :: back) % 10 ≠ payloadSum (front ++ old :: back) % 10 := by
  obtain ⟨old_small, old_written⟩ := valueOf_lt old_digit
  obtain ⟨new_small, new_written⟩ := valueOf_lt new_digit
  have apart : valueOf new ≠ valueOf old := by
    intro same
    rw [same] at new_written
    exact other (new_written.symm.trans old_written)
  rw [payloadSum_append_cons, payloadSum_append_cons]
  generalize weightedSum _ (front.map valueOf).reverse = rest
  -- A weight of three is invertible modulo ten, as is one.
  unfold weightAt
  split <;> omega

/-- The exchange of neighbours leaves the sum as it is modulo ten exactly if five divides their
difference, whichever of them has the weight three. -/
theorem payloadSum_exchanged (front : List Char) (first second : Char) (back : List Char) :
    payloadSum (front ++ second :: first :: back) % 10 =
        payloadSum (front ++ first :: second :: back) % 10 ↔
      (5 : Int) ∣ (valueOf first : Int) - valueOf second := by
  have inner (digit : Char) : payloadSum (digit :: back) =
      payloadSum back + weightAt (back.length + 1) * valueOf digit :=
    payloadSum_append_cons [] digit back
  rw [payloadSum_append_cons, payloadSum_append_cons, inner, inner, List.length_cons,
    List.length_cons]
  generalize weightedSum _ (front.map valueOf).reverse = rest
  unfold weightAt
  split <;> split <;> omega

/-- Which errors a check digit detects.  Every payload of digits has one.  Another digit in the place
of one of them always has another check digit.  The exchange of neighbours has another check digit
exactly if five does not divide their difference.  Zeros in front leave the check digit as it is.  The
sum of up to a hundred million digits stays below 2^32. -/
theorem checkDigit_detects {payload : List Char} (digits : ∀ c ∈ payload, c.isDigit = true) :
    ∃ check, checkDigit payload = .ok check ∧
      (∀ front old new back, payload = front ++ old :: back → new.isDigit = true → new ≠ old →
        ∃ other, checkDigit (front ++ new :: back) = .ok other ∧ other ≠ check) ∧
      (∀ front first second back, payload = front ++ first :: second :: back →
        ∃ other, checkDigit (front ++ second :: first :: back) = .ok other ∧
          (other ≠ check ↔ ¬ (5 : Int) ∣ (valueOf first : Int) - valueOf second)) ∧
      (∀ zeros, checkDigit (List.replicate zeros '0' ++ payload) = .ok check) ∧
      (payload.length ≤ 100000000 → payloadSum payload < 4294967296) := by
  refine ⟨completingDigit payload, checkDigit_of_digits digits, ?_, ?_, ?_, ?_⟩
  · rintro front old new back rfl new_digit apart
    rw [List.forall_mem_append, List.forall_mem_cons] at digits
    obtain ⟨inFront, old_digit, inBack⟩ := digits
    have numeric : ∀ c ∈ front ++ new :: back, c.isDigit = true :=
      List.forall_mem_append.mpr ⟨inFront, List.forall_mem_cons.mpr ⟨new_digit, inBack⟩⟩
    refine ⟨_, checkDigit_of_digits numeric, ?_⟩
    rw [ne_eq, completingDigit_eq_iff]
    exact payloadSum_replaced front back old_digit new_digit apart
  · rintro front first second back rfl
    have same : (front ++ second :: first :: back).Perm (front ++ first :: second :: back) :=
      (List.Perm.swap first second back).append_left front
    refine ⟨_, checkDigit_of_digits fun c mem => digits c (same.mem_iff.mp mem), ?_⟩
    rw [ne_eq, completingDigit_eq_iff, payloadSum_exchanged]
  · intro zeros
    have zero_digit : ∀ c ∈ List.replicate zeros '0', c.isDigit = true := by
      intro c mem
      rw [List.eq_of_mem_replicate mem]
      rfl
    have numeric := List.forall_mem_append.mpr ⟨zero_digit, digits⟩
    have same : completingDigit (List.replicate zeros '0' ++ payload) = completingDigit payload := by
      rw [completingDigit_eq_iff, payloadSum_zeros]
    rw [checkDigit_of_digits numeric, same]
  · intro short
    have small : ∀ value ∈ (payload.map valueOf).reverse, value < 10 := by
      intro value mem
      obtain ⟨c, inside, rfl⟩ := List.mem_map.mp (List.mem_reverse.mp mem)
      exact (valueOf_lt (digits c inside)).1
    have bound : payloadSum payload ≤ 27 * (payload.map valueOf).reverse.length :=
      weightedSum_le 1 small
    rw [List.length_reverse, List.length_map] at bound
    omega

/-- The check digit of 9638507 is 4.  The exchange of its 3 and 8 goes unseen, that of its 9 and 6
and another last digit are seen. -/
theorem checkDigit_detects_sevenDigits :
    (∀ c ∈ "9638507".toList, c.isDigit = true) ∧
      checkDigit "9638507".toList = .ok '4' ∧
      checkDigit "9683507".toList = .ok '4' ∧
      (∃ other, checkDigit "6938507".toList = .ok other ∧ other ≠ '4') ∧
      (∃ other, checkDigit "9638501".toList = .ok other ∧ other ≠ '4') ∧
      checkDigit "0009638507".toList = .ok '4' ∧ payloadSum "9638507".toList < 4294967296 := by
  have digits : ∀ c ∈ "9638507".toList, c.isDigit = true := List.all_eq_true.mp (by decide)
  have made : checkDigit "9638507".toList = .ok '4' := by decide
  obtain ⟨check, check_eq, replaced, exchanged, padded, bounded⟩ := checkDigit_detects digits
  obtain rfl : '4' = check := Except.ok.inj (made.symm.trans check_eq)
  obtain ⟨unseen, unseen_eq, seen_iff⟩ := exchanged "96".toList '3' '8' "507".toList rfl
  obtain rfl : unseen = '4' := not_not.mp (mt seen_iff.mp (by decide))
  obtain ⟨other, other_eq, seen⟩ := exchanged [] '9' '6' "38507".toList rfl
  exact ⟨digits, made, unseen_eq, ⟨other, other_eq, seen.mpr (by decide)⟩,
    replaced "963850".toList '7' '1' [] rfl rfl (by decide), padded 3, bounded (by decide)⟩

end Receipt
