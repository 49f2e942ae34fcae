import Receipt.Proofs.Number.Rounding

/-!
# The order of values

Every operation on binary values rounds an exact result once.  Rounding keeps the order of numbers,
also between signs and where results become infinite.  A product with a positive factor, a quotient
by a positive divisor, a sum with a fixed summand and the floor therefore keep the order of values.
-/

set_option autoImplicit false

namespace Receipt.Number

namespace Binary

/-- A number with a sign. -/
def signed (negative : Bool) (magnitude : ℚ) : ℚ :=
  if negative then -magnitude else magnitude

/-- The number that a finite value is. -/
def number (negative : Bool) (significand : Nat) (exponent : Int) : ℚ :=
  signed negative (significand * 2 ^ exponent)

/-- A number without a sign is not negative. -/
theorem number_false_nonneg (significand : Nat) (exponent : Int) :
    0 ≤ number false significand exponent :=
  mul_nonneg (Nat.cast_nonneg significand) (zpow_pos two_pos exponent).le

/-- With a sign a number is the negative of what it is without. -/
theorem number_true (significand : Nat) (exponent : Int) :
    number true significand exponent = -number false significand exponent :=
  rfl

/-- A finite value is above zero exactly if it has no minus sign and its significand is not zero. -/
theorem number_pos_iff {negative : Bool} {significand : Nat} {exponent : Int} :
    0 < number negative significand exponent ↔ negative = false ∧ significand ≠ 0 := by
  have power_pos : (0 : ℚ) < 2 ^ exponent := zpow_pos two_pos exponent
  cases negative with
  | false =>
      rw [number, signed, if_neg Bool.false_ne_true, mul_pos_iff_of_pos_right power_pos,
        Nat.cast_pos, Nat.pos_iff_ne_zero]
      exact (and_iff_right rfl).symm
  | true =>
      rw [number_true, neg_pos]
      exact iff_of_false (not_lt.mpr (number_false_nonneg significand exponent)) (by simp)

/-- A number is negative exactly if it has a sign and is not zero. -/
theorem number_neg_iff {negative : Bool} {significand : Nat} {exponent : Int} :
    number negative significand exponent < 0 ↔ negative = true ∧ significand ≠ 0 := by
  cases negative with
  | false => exact iff_of_false (not_lt.mpr (number_false_nonneg significand exponent)) (by simp)
  | true =>
      rw [number_true, neg_lt_zero, number_pos_iff]
      exact and_congr_left' (by simp)

/-- The order of values.  What is not a number has no place in it. -/
inductive AtMost : Binary → Binary → Prop where
  | low {b : Binary} (isNumber : b ≠ nan) : AtMost (infinite true) b
  | high {a : Binary} (isNumber : a ≠ nan) : AtMost a (infinite false)
  | finite {s t : Bool} {m n : Nat} {e f : Int} (below : number s m e ≤ number t n f) :
      AtMost (finite s m e) (finite t n f)

section Rounded

variable {format : Format} {num den num' den' : Nat}

/-- A rounded fraction is infinite or finite, with the sign that it is given. -/
theorem ofFraction_infinite_or_finite (format : Format) (negative : Bool) (num den : Nat) :
    ofFraction format negative num den = infinite negative ∨
      ∃ significand exponent,
        ofFraction format negative num den = finite negative significand exponent := by
  rcases Nat.eq_zero_or_pos num with rfl | num_pos
  · exact .inr ⟨_, _, if_pos rfl⟩
  · rw [ofFraction_eq num_pos]
    split
    · exact .inl rfl
    · exact .inr ⟨_, _, rfl⟩

/-- A fraction is rounded to a number. -/
theorem ofFraction_ne_nan (format : Format) (negative : Bool) (num den : Nat) :
    ofFraction format negative num den ≠ nan := by
  rcases ofFraction_infinite_or_finite format negative num den with eq | ⟨m, e, eq⟩ <;>
    simp [eq]

/-- What is rounded from below zero is at most what is rounded from above zero. -/
theorem ofFraction_true_atMost_false (format : Format) (num den num' den' : Nat) :
    AtMost (ofFraction format true num den) (ofFraction format false num' den') := by
  rcases ofFraction_infinite_or_finite format true num den with eq | ⟨m, e, eq⟩
  · rw [eq]
    exact .low (ofFraction_ne_nan format false num' den')
  · rcases ofFraction_infinite_or_finite format false num' den' with eq' | ⟨n, f, eq'⟩
    · rw [eq']
      exact .high (ofFraction_ne_nan format true num den)
    · rw [eq, eq']
      refine .finite ?_
      rw [number_true]
      have := number_false_nonneg m e
      have := number_false_nonneg n f
      linarith

/-- Rounding keeps the order of fractions, and turns it around behind a minus sign. -/
theorem ofFraction_atMost (precise : 0 < format.precision) (den_pos : 0 < den)
    (den_pos' : 0 < den') (below : (num : ℚ) / den ≤ num' / den') :
    AtMost (ofFraction format false num den) (ofFraction format false num' den') ∧
      AtMost (ofFraction format true num' den') (ofFraction format true num den) := by
  rcases Nat.eq_zero_or_pos num with rfl | num_pos
  · -- Zero of either sign lies between what is rounded from below and from above.
    have zero (negative : Bool) : ofFraction format negative 0 den =
        finite negative 0 format.minExponent := if_pos rfl
    have number_zero (negative : Bool) : number negative 0 format.minExponent = 0 := by
      cases negative <;> simp [number, signed]
    rw [zero, zero]
    constructor
    · rcases ofFraction_infinite_or_finite format false num' den' with eq | ⟨m, e, eq⟩
      · rw [eq]
        exact .high Binary.noConfusion
      · rw [eq]
        refine .finite ?_
        rw [number_zero]
        exact number_false_nonneg m e
    · rcases ofFraction_infinite_or_finite format true num' den' with eq | ⟨m, e, eq⟩
      · rw [eq]
        exact .low Binary.noConfusion
      · rw [eq]
        refine .finite ?_
        rw [number_zero, number_true]
        exact neg_nonpos.mpr (number_false_nonneg m e)
  · have den_pos_rat' : (0 : ℚ) < den' := Nat.cast_pos.mpr den_pos'
    have num_pos' : 0 < num' := Nat.cast_pos.mp
      ((div_pos_iff_of_pos_right den_pos_rat').mp ((ratio_pos num_pos den_pos).trans_le below))
    obtain ⟨order, places⟩ :=
      significandAt_mono precise num_pos num_pos' den_pos den_pos' below
    have number_eq := significand_mul_two_zpow precise num den
    have number_eq' := significand_mul_two_zpow precise num' den'
    by_cases past : format.maxExponent < lastPlace format num' den'
    · have isNumber := ofFraction_ne_nan format
      rw [ofFraction_eq num_pos', ofFraction_eq num_pos', if_pos past, if_pos past]
      exact ⟨.high (isNumber false num den), .low (isNumber true num den)⟩
    · have within : ¬ format.maxExponent < lastPlace format num den := by omega
      simp only [ofFraction_eq num_pos, ofFraction_eq num_pos', if_neg past, if_neg within]
      constructor
      · refine .finite ?_
        simp only [number, signed, Bool.false_eq_true, if_false, number_eq, number_eq', order]
      · refine .finite ?_
        simp only [number, signed, if_true, number_eq, number_eq', neg_le_neg_iff, order]

/-- A value is what a number is rounded to. -/
def IsRounded (format : Format) (x : ℚ) (value : Binary) : Prop :=
  ∃ (negative : Bool) (num den : Nat), 0 < den ∧ x = signed negative (num / den) ∧
    value = ofFraction format negative num den

/-- What a number is rounded to is a number. -/
theorem IsRounded.ne_nan {x : ℚ} {a : Binary} (rounded : IsRounded format x a) : a ≠ nan := by
  obtain ⟨negative, num, den, -, -, rfl⟩ := rounded
  exact ofFraction_ne_nan format negative num den

/-- Rounding keeps the order of numbers. -/
theorem IsRounded.atMost {x y : ℚ} {a b : Binary} (precise : 0 < format.precision)
    (first : IsRounded format x a) (second : IsRounded format y b) (below : x ≤ y) :
    AtMost a b := by
  obtain ⟨negative, num, den, den_pos, rfl, rfl⟩ := first
  obtain ⟨negative', num', den', den_pos', rfl, rfl⟩ := second
  cases negative with
  | false =>
      cases negative' with
      | false => exact (ofFraction_atMost precise den_pos den_pos' below).1
      | true =>
          -- Only zero is at least and at most zero.
          have nonneg : (0 : ℚ) ≤ num / den := by positivity
          have nonneg' : (0 : ℚ) ≤ num' / den' := by positivity
          simp only [signed, Bool.false_eq_true, if_false, if_true] at below
          have none : (num : ℚ) / den = 0 := by linarith
          have none' : (num' : ℚ) / den' = 0 := by linarith
          obtain rfl : num = 0 := by simpa [Nat.ne_of_gt den_pos] using none
          obtain rfl : num' = 0 := by simpa [Nat.ne_of_gt den_pos'] using none'
          refine .finite ?_
          simp [number, signed]
  | true =>
      cases negative' with
      | false => exact ofFraction_true_atMost_false format num den num' den'
      | true =>
          simp only [signed, if_true, neg_le_neg_iff] at below
          exact (ofFraction_atMost precise den_pos' den_pos below).2

/-- A significand times a power of two is rounded from that number. -/
theorem isRounded_ofDyadic (format : Format) (negative : Bool) (significand : Nat)
    (exponent : Int) :
    IsRounded format (number negative significand exponent)
      (ofDyadic format negative significand exponent) := by
  refine ⟨negative, _, _, scaleFraction_snd_pos significand Nat.one_pos exponent, ?_, rfl⟩
  rw [ratio_scaleFraction, Nat.cast_one, div_one]
  rfl

/-! ## Operations that keep the order -/

/-- An operation that rounds the result of an increasing one, and leaves what is infinite as it is,
keeps the order of values. -/
theorem AtMost.map (operation : Binary → Binary) (change : ℚ → ℚ)
    (precise : 0 < format.precision) (low : operation (infinite true) = infinite true)
    (high : operation (infinite false) = infinite false)
    (rounds : ∀ s m e, IsRounded format (change (number s m e)) (operation (.finite s m e)))
    (increasing : Monotone change) {a b : Binary} (order : AtMost a b) :
    AtMost (operation a) (operation b) := by
  have numbers : ∀ c, c ≠ nan → operation c ≠ nan := by
    intro c isNumber
    match c, isNumber with
    | infinite true, _ => simp [low]
    | infinite false, _ => simp [high]
    | .finite s m e, _ => exact (rounds s m e).ne_nan
  cases order with
  | low isNumber =>
      rw [low]
      exact .low (numbers _ isNumber)
  | high isNumber =>
      rw [high]
      exact .high (numbers _ isNumber)
  | finite below => exact (rounds _ _ _).atMost precise (rounds _ _ _) (increasing below)

variable {a b : Binary}

/-- A product with a positive factor keeps the order of values. -/
theorem mul_atMost (precise : 0 < format.precision) {factor : Nat} (factor_pos : 0 < factor)
    (place : Int) (order : AtMost a b) :
    AtMost (mul format a (.finite false factor place))
      (mul format b (.finite false factor place)) := by
  have nonzero : factor ≠ 0 := Nat.ne_of_gt factor_pos
  have increasing : Monotone (fun x : ℚ => x * (factor * 2 ^ place)) :=
    fun x y below => mul_le_mul_of_nonneg_right below (number_false_nonneg factor place)
  refine order.map (fun c => mul format c (.finite false factor place)) _ precise ?_ ?_
    (fun s m e => ?_) increasing
  · simp [mul, nonzero]
  · simp [mul, nonzero]
  · have product : number s m e * (factor * 2 ^ place) = number s (m * factor) (e + place) := by
      rw [number, number, Nat.cast_mul, zpow_add₀ two_ne_zero]
      cases s <;> simp only [signed, Bool.false_eq_true, if_false, if_true] <;> ring
    simp only [product]
    simpa [mul] using isRounded_ofDyadic format s (m * factor) (e + place)

/-- A quotient by a positive divisor is rounded from that of the numbers. -/
theorem isRounded_div (format : Format) (negative : Bool) (significand : Nat) (exponent : Int)
    {divisor : Nat} (divisor_pos : 0 < divisor) (place : Int) :
    IsRounded format (number negative significand exponent / (divisor * 2 ^ place))
      (div format (.finite negative significand exponent) (.finite false divisor place)) := by
  refine ⟨negative, (scaleFraction significand divisor (exponent - place)).1, _,
    scaleFraction_snd_pos significand divisor_pos (exponent - place), ?_, ?_⟩
  · simp only [ratio_scaleFraction, number, zpow_sub₀ (two_ne_zero : (2 : ℚ) ≠ 0)]
    cases negative <;> simp only [signed, Bool.false_eq_true, if_false, if_true] <;> ring
  · simp [div, Nat.ne_of_gt divisor_pos]

/-- A quotient by a positive divisor keeps the order of values. -/
theorem div_atMost (precise : 0 < format.precision) {divisor : Nat} (divisor_pos : 0 < divisor)
    (place : Int) (order : AtMost a b) :
    AtMost (div format a (.finite false divisor place))
      (div format b (.finite false divisor place)) := by
  have increasing : Monotone (fun x : ℚ => x / (divisor * 2 ^ place)) :=
    fun x y below => div_le_div_of_nonneg_right below (number_false_nonneg divisor place)
  refine order.map (fun c => div format c (.finite false divisor place)) _ precise ?_ ?_
    (fun s m e => isRounded_div format s m e divisor_pos place) increasing
  · simp [div]
  · simp [div]

/-- The significand at a lower place is a multiple of that place. -/
theorem signedAt_mul_two_zpow (negative : Bool) (significand : Nat) {exponent place : Int}
    (above : place ≤ exponent) :
    (signedAt negative significand exponent place : ℚ) * 2 ^ place =
      number negative significand exponent := by
  obtain ⟨count, rfl⟩ : ∃ count : Nat, exponent = place + count :=
    ⟨(exponent - place).toNat, by omega⟩
  have power : (2 : ℚ) ^ (place + (count : ℤ)) = 2 ^ place * 2 ^ count := by
    rw [zpow_add₀ two_ne_zero, zpow_natCast]
  rw [number, power, signedAt, add_sub_cancel_left, Int.toNat_natCast, Nat.pow_eq]
  cases negative <;>
    simp only [signed, Bool.false_eq_true, if_false, if_true] <;> push_cast <;> ring

/-- A sum with a finite value keeps the order of values. -/
theorem add_atMost (precise : 0 < format.precision) (negative : Bool) (summand : Nat) (place : Int)
    (order : AtMost a b) :
    AtMost (add format a (.finite negative summand place))
      (add format b (.finite negative summand place)) := by
  have increasing : Monotone (fun x : ℚ => x + number negative summand place) :=
    fun x y below => add_le_add_left below _
  refine order.map (fun c => add format c (.finite negative summand place)) _ precise rfl rfl
    (fun s m e => ?_) increasing
  have sum_eq : number s m e + number negative summand place =
      ((signedAt s m e (min e place) + signedAt negative summand place (min e place) : ℤ) : ℚ) *
        2 ^ min e place := by
    rw [Int.cast_add, add_mul, signedAt_mul_two_zpow s m (min_le_left e place),
      signedAt_mul_two_zpow negative summand (min_le_right e place)]
  simp only [add, sum_eq]
  generalize signedAt s m e (min e place) + signedAt negative summand place (min e place) = sum
  split
  · rename_i none
    refine ⟨s && negative, 0, 1, Nat.one_pos, ?_, rfl⟩
    simp [none, signed]
  · convert isRounded_ofDyadic format (decide (sum < 0)) sum.natAbs (min e place) using 1
    rw [number, Nat.cast_natAbs]
    rcases lt_or_ge sum 0 with below | above
    · simp [signed, below, abs_of_neg below]
    · simp [signed, not_lt.mpr above, abs_of_nonneg above]

end Rounded

/-- The floor of a finite value is that of its number. -/
theorem floorFinite_eq (negative : Bool) (significand : Nat) (exponent : Int) :
    floorFinite negative significand exponent = ⌊number negative significand exponent⌋ := by
  have number_eq : number negative significand exponent =
      ((if negative then -(significand : Int) else significand : Int) : ℚ) * 2 ^ exponent := by
    cases negative <;> simp [number, signed]
  rw [number_eq, floorFinite]
  generalize (if negative then -(significand : Int) else significand) = signed
  split
  · rename_i whole
    obtain ⟨count, rfl⟩ := Int.eq_ofNat_of_zero_le whole
    rw [zpow_natCast, Int.toNat_natCast, Nat.pow_eq]
    exact_mod_cast (Int.floor_intCast _).symm
  · rename_i part
    obtain ⟨count, count_eq⟩ := Int.eq_ofNat_of_zero_le (show 0 ≤ -exponent by omega)
    obtain rfl : exponent = -(count : Int) := by omega
    rw [neg_neg, Int.toNat_natCast, Nat.pow_eq, zpow_neg, ← div_eq_mul_inv, zpow_natCast]
    exact_mod_cast (Rat.floor_intCast_div_natCast signed (2 ^ count)).symm

/-- A clamped number has 32 bits with a sign. -/
theorem clamp32_bounds (n : Int) : -2147483648 ≤ clamp32 n ∧ clamp32 n ≤ 2147483647 := by
  unfold clamp32
  omega

/-- A floor that is kept within 32 bits lies between their bounds. -/
theorem floor32_bounds (a : Binary) : -2147483648 ≤ floor32 a ∧ floor32 a ≤ 2147483647 := by
  cases a with
  | nan => decide
  | infinite negative => cases negative <;> decide
  | finite negative significand exponent => exact clamp32_bounds _

/-- The floor keeps the order of values. -/
theorem floor32_mono {a b : Binary} (order : AtMost a b) : floor32 a ≤ floor32 b := by
  cases order with
  | low isNumber => exact (floor32_bounds b).1
  | high isNumber => exact (floor32_bounds a).2
  | finite below =>
      have floors := Int.floor_le_floor below
      simp only [floor32, floorFinite_eq, clamp32]
      omega

/-- A finite value is below another exactly when its number is. -/
theorem lt_finite (s t : Bool) (m n : Nat) (e f : Int) :
    lt (finite s m e) (finite t n f) = true ↔ number s m e < number t n f := by
  rw [← signedAt_mul_two_zpow s m (min_le_left e f), ← signedAt_mul_two_zpow t n (min_le_right e f),
    mul_lt_mul_iff_left₀ (zpow_pos two_pos _), Int.cast_lt]
  exact decide_eq_true_iff

/-- A value that no other is above is at least that one. -/
theorem atMost_of_lt_eq_false {a b : Binary} (first : a ≠ nan) (second : b ≠ nan)
    (not_below : lt a b = false) : AtMost b a := by
  match a, b, first, second with
  | infinite false, b, _, second => exact .high second
  | a, infinite true, first, _ => exact .low first
  | infinite true, infinite false, _, _ => cases not_below
  | infinite true, finite _ _ _, _, _ => cases not_below
  | finite _ _ _, infinite false, _, _ => cases not_below
  | finite s m e, finite t n f, _, _ =>
      refine .finite (not_lt.mp fun below => ?_)
      rw [(lt_finite s t m n e f).mpr below] at not_below
      cases not_below

/-- The order is transitive. -/
theorem AtMost.trans {a b c : Binary} (first : AtMost a b) (second : AtMost b c) : AtMost a c := by
  cases first with
  | low isNumber =>
      cases second with
      | low isNumber' => exact .low isNumber'
      | high isNumber' => exact .high Binary.noConfusion
      | finite below => exact .low Binary.noConfusion
  | high isNumber =>
      cases second with
      | high isNumber' => exact .high isNumber
  | finite below =>
      cases second with
      | high isNumber' => exact .high Binary.noConfusion
      | finite below' => exact .finite (below.trans below')

/-- What is ordered is a number. -/
theorem AtMost.ne_nan {a b : Binary} (order : AtMost a b) : a ≠ nan ∧ b ≠ nan := by
  cases order with
  | low isNumber => exact ⟨Binary.noConfusion, isNumber⟩
  | high isNumber => exact ⟨isNumber, Binary.noConfusion⟩
  | finite below => exact ⟨Binary.noConfusion, Binary.noConfusion⟩

/-- A value is not below one that is at most it. -/
theorem AtMost.lt_eq_false {a b : Binary} (order : AtMost b a) : lt a b = false := by
  cases order with
  | low isNumber =>
      cases a with
      | nan => rfl
      | infinite negative => cases negative <;> rfl
      | finite negative significand exponent => rfl
  | high isNumber =>
      cases b with
      | nan => rfl
      | infinite negative => cases negative <;> rfl
      | finite negative significand exponent => rfl
  | finite below =>
      rw [Bool.eq_false_iff, ne_eq, lt_finite]
      exact not_lt.mpr below

/-! ## Integers -/

/-- An integer is rounded from itself. -/
theorem isRounded_ofInt (format : Format) (n : Int) : IsRounded format n (ofInt format n) := by
  refine ⟨decide (n < 0), n.natAbs, 1, Nat.one_pos, ?_, rfl⟩
  rw [Nat.cast_one, div_one, Nat.cast_natAbs]
  rcases lt_or_ge n 0 with below | above
  · simp [signed, below, abs_of_neg below]
  · simp [signed, Int.not_lt.mpr above, abs_of_nonneg above]

/-- A count is rounded once. -/
theorem isRounded_ofNat (format : Format) (n : Nat) : IsRounded format n (ofNat format n) := by
  refine ⟨false, n, 1, Nat.one_pos, ?_, rfl⟩
  simp [signed]

/-- Larger natural numbers are rounded to values that are not smaller. -/
theorem ofNat_atMost {format : Format} (precise : 0 < format.precision) {m n : Nat} (below : m ≤ n) :
    AtMost (ofNat format m) (ofNat format n) :=
  (isRounded_ofNat format m).atMost precise (isRounded_ofNat format n) (Nat.cast_le.mpr below)

/-- A natural number that has no more bits than a significand is a value of the format. -/
theorem exists_ofNat_of_lt {format : Format} (precise : 0 < format.precision)
    (deep : format.minExponent ≤ 0) (high : 0 < format.maxExponent) {n : Nat}
    (short : n < 2 ^ format.precision) :
    ∃ significand exponent, ofNat format n = finite false significand exponent ∧
      number false significand exponent = n := by
  rcases Nat.eq_zero_or_pos n with rfl | n_pos
  · have zero : ofFraction format false 0 1 = finite false 0 format.minExponent := if_pos rfl
    refine ⟨0, format.minExponent, zero, ?_⟩
    simp [number, signed]
  · have place : placeExponent format n 1 ≤ 0 := by
      have leading : Int.log 2 ((n : ℚ) / (1 : Nat)) < format.precision := by
        rw [← Int.lt_zpow_iff_log_lt Nat.one_lt_two (ratio_pos n_pos Nat.one_pos), zpow_natCast,
          Nat.cast_one, div_one]
        exact_mod_cast short
      rw [placeExponent_eq format n_pos Nat.one_pos]
      omega
    have within : ¬ format.maxExponent < lastPlace format n 1 := by
      unfold lastPlace
      split <;> omega
    -- At such a place nothing is lost, since the fraction is a whole number of its units.
    have whole : scaleFraction n 1 (-placeExponent format n 1) =
        (n * Nat.pow 2 (-placeExponent format n 1).toNat, 1) := if_pos (by omega)
    have units := ratio_scaleFraction n 1 (-placeExponent format n 1)
    have kept : (significandAt format n 1 : ℚ) = n * 2 ^ (-placeExponent format n 1) := by
      rw [whole, Nat.cast_one, div_one, div_one] at units
      rw [significandAt, whole, roundDiv_one, units]
    refine ⟨_, _, (ofFraction_eq n_pos false).trans (if_neg within), ?_⟩
    rw [number, signed, if_neg Bool.false_ne_true, significand_mul_two_zpow precise, kept, mul_assoc,
      ← zpow_add₀ two_ne_zero, neg_add_cancel, zpow_zero, mul_one]

end Binary

namespace Single

/-- One half is exact. -/
theorem half_eq : ofRatio 1 2 = .finite false 8388608 (-24) := by
  decide +kernel

/-- Rounding to an integer keeps the order of values. -/
theorem roundHalfUp_mono {a b : Single} (order : Binary.AtMost a b) :
    a.roundHalfUp ≤ b.roundHalfUp := by
  unfold roundHalfUp
  rw [half_eq]
  exact Binary.floor32_mono (Binary.add_atMost (by decide) _ _ _ order)

end Single

end Receipt.Number
