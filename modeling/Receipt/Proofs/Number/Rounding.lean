import Mathlib.Data.Int.Log
import Mathlib.Data.Rat.Floor
import Mathlib.Tactic.FieldSimp
import Mathlib.Tactic.Linarith
import Receipt.Number.Binary

/-!
# Rounding keeps the order of fractions

A positive fraction is rounded at its last place, which is that of its leading bit less the other
bits of a significand.  Fractions with the same last place are rounded to significands in the same
order, and a power of two, which no rounding steps over, lies between fractions with different ones.
What is past the largest last place is infinite.
-/

set_option autoImplicit false

namespace Receipt.Number

/-! ## Fractions and their nearest natural numbers -/

/-- Scaling a fraction multiplies the number that it is by a power of two. -/
theorem ratio_scaleFraction (num den : Nat) (shift : Int) :
    ((scaleFraction num den shift).1 : ℚ) / (scaleFraction num den shift).2 =
      num / den * 2 ^ shift := by
  unfold scaleFraction
  split
  · rename_i up
    obtain ⟨count, rfl⟩ := Int.eq_ofNat_of_zero_le up
    simp only [Int.toNat_natCast, Nat.pow_eq, Nat.cast_mul, Nat.cast_pow, Nat.cast_ofNat,
      zpow_natCast]
    ring
  · rename_i down
    obtain ⟨count, count_eq⟩ := Int.eq_ofNat_of_zero_le (show 0 ≤ -shift by omega)
    obtain rfl : shift = -(count : Int) := by omega
    simp only [neg_neg, Int.toNat_natCast, Nat.pow_eq, Nat.cast_mul, Nat.cast_pow,
      Nat.cast_ofNat, zpow_neg, zpow_natCast, div_eq_mul_inv, mul_inv]
    ring

/-- A fraction of positive numbers is positive. -/
theorem ratio_pos {num den : Nat} (num_pos : 0 < num) (den_pos : 0 < den) :
    (0 : ℚ) < num / den :=
  div_pos (Nat.cast_pos.mpr num_pos) (Nat.cast_pos.mpr den_pos)

/-- Scaling leaves a denominator positive. -/
theorem scaleFraction_snd_pos (num : Nat) {den : Nat} (den_pos : 0 < den) (shift : Int) :
    0 < (scaleFraction num den shift).2 := by
  unfold scaleFraction
  split
  · exact den_pos
  · exact Nat.mul_pos den_pos (Nat.pow_pos (by decide))

/-- A fraction is its whole part and what is left over. -/
theorem ratio_eq_div_add_mod (num : Nat) {den : Nat} (den_pos : 0 < den) :
    (num : ℚ) / den = (num / den : Nat) + (num % den : Nat) / (den : ℚ) := by
  have nonzero : (den : ℚ) ≠ 0 := Nat.cast_ne_zero.mpr (Nat.ne_of_gt den_pos)
  have parts : ((den * (num / den) + num % den : Nat) : ℚ) = num := by
    rw [Nat.div_add_mod]
  rw [← parts]
  push_cast
  field_simp

/-- A rounded fraction is at most one half away, and less than that if it is odd. -/
theorem roundDiv_near (num : Nat) {den : Nat} (den_pos : 0 < den) :
    (roundDiv num den - 1 / 2 ≤ (num : ℚ) / den ∧ (num : ℚ) / den ≤ roundDiv num den + 1 / 2) ∧
      (roundDiv num den % 2 = 1 → roundDiv num den - 1 / 2 < (num : ℚ) / den ∧
        (num : ℚ) / den < roundDiv num den + 1 / 2) := by
  have den_pos' : (0 : ℚ) < den := Nat.cast_pos.mpr den_pos
  have low : (0 : ℚ) ≤ (num % den : Nat) / (den : ℚ) := by positivity
  have high : ((num % den : Nat) : ℚ) / den < 1 := by
    rw [div_lt_one den_pos']
    exact_mod_cast Nat.mod_lt num den_pos
  rw [ratio_eq_div_add_mod num den_pos]
  unfold roundDiv
  generalize num / den = quotient
  simp only
  split
  · rename_i below
    have below : ((num % den : Nat) : ℚ) / den < 1 / 2 := by
      rw [div_lt_div_iff₀ den_pos' two_pos]
      exact_mod_cast (by omega : num % den * 2 < 1 * den)
    constructor
    · constructor <;> linarith
    · intro
      constructor <;> linarith
  · split
    · rename_i above
      have above : 1 / 2 < ((num % den : Nat) : ℚ) / den := by
        rw [div_lt_div_iff₀ two_pos den_pos']
        exact_mod_cast (by omega : 1 * den < num % den * 2)
      push_cast
      constructor
      · constructor <;> linarith
      · intro
        constructor <;> linarith
    · have tie : ((num % den : Nat) : ℚ) / den = 1 / 2 := by
        rw [div_eq_div_iff den_pos'.ne' two_ne_zero]
        exact_mod_cast (by omega : num % den * 2 = 1 * den)
      rw [tie]
      split
      · constructor
        · constructor <;> linarith
        · omega
      · push_cast
        constructor
        · constructor <;> linarith
        · omega

/-- Rounding fractions to natural numbers keeps their order. -/
theorem roundDiv_mono {num den num' den' : Nat} (den_pos : 0 < den) (den_pos' : 0 < den')
    (below : (num : ℚ) / den ≤ num' / den') : roundDiv num den ≤ roundDiv num' den' := by
  obtain ⟨⟨near, -⟩, odd⟩ := roundDiv_near num den_pos
  obtain ⟨⟨-, near'⟩, odd'⟩ := roundDiv_near num' den_pos'
  by_contra greater
  have step : (roundDiv num' den' : ℚ) + 1 ≤ roundDiv num den := by
    exact_mod_cast not_le.mp greater
  -- Both fractions are in the middle between neighbours, one of which is odd.
  have neighbours : roundDiv num den = roundDiv num' den' + 1 := by
    have close : (roundDiv num den : ℚ) ≤ roundDiv num' den' + 1 := by linarith
    exact le_antisymm (by exact_mod_cast close) (by exact_mod_cast step)
  rcases Nat.mod_two_eq_zero_or_one (roundDiv num den) with even | is_odd
  · have := (odd' (by omega)).2
    linarith
  · have := (odd is_odd).1
    linarith

/-- A whole number is rounded to itself. -/
theorem roundDiv_one (n : Nat) : roundDiv n 1 = n := by
  simp [roundDiv, Nat.mod_one]

/-- What is at most a whole number is rounded to at most this number. -/
theorem roundDiv_le {num den bound : Nat} (den_pos : 0 < den) (below : (num : ℚ) / den ≤ bound) :
    roundDiv num den ≤ bound := by
  have order : (num : ℚ) / den ≤ bound / (1 : Nat) := by simpa using below
  simpa only [roundDiv_one] using roundDiv_mono den_pos Nat.one_pos order

/-- What is at least a whole number is rounded to at least this number. -/
theorem le_roundDiv {num den bound : Nat} (den_pos : 0 < den) (above : (bound : ℚ) ≤ num / den) :
    bound ≤ roundDiv num den := by
  have order : (bound : ℚ) / (1 : Nat) ≤ num / den := by simpa using above
  simpa only [roundDiv_one] using roundDiv_mono Nat.one_pos den_pos order

/-- A positive number lies between two neighbouring powers of two. -/
theorem two_zpow_log2_le {n : Nat} (n_pos : 0 < n) :
    (2 : ℚ) ^ (n.log2 : ℤ) ≤ n ∧ (n : ℚ) < 2 ^ ((n.log2 : ℤ) + 1) := by
  constructor
  · rw [zpow_natCast]
    exact_mod_cast Nat.log2_self_le (Nat.ne_of_gt n_pos)
  · rw [← Nat.cast_succ, zpow_natCast]
    exact_mod_cast Nat.lt_log2_self

namespace Binary

/-! ## The place and the significand of a rounded fraction -/

section Places

variable (format : Format) {num den num' den' : Nat}

/-- The last place is that of the leading bit less the other bits of a significand, unless the
format ends before. -/
theorem placeExponent_eq (num_pos : 0 < num) (den_pos : 0 < den) :
    placeExponent format num den =
      max format.minExponent (Int.log 2 ((num : ℚ) / den) - ((format.precision : Int) - 1)) := by
  have den_pos' : (0 : ℚ) < den := Nat.cast_pos.mpr den_pos
  have positive := ratio_pos num_pos den_pos
  obtain ⟨num_low, num_high⟩ := two_zpow_log2_le num_pos
  obtain ⟨den_low, den_high⟩ := two_zpow_log2_le den_pos
  generalize estimate_eq : (num.log2 : Int) - (den.log2 : Int) = estimate
  -- The estimate is the leading place or one more.
  have low : (2 : ℚ) ^ (estimate - 1) ≤ num / den := by
    rw [le_div_iff₀ den_pos']
    calc (2 : ℚ) ^ (estimate - 1) * den ≤ 2 ^ (estimate - 1) * 2 ^ ((den.log2 : ℤ) + 1) :=
          mul_le_mul_of_nonneg_left den_high.le (zpow_pos two_pos _).le
      _ = 2 ^ (num.log2 : ℤ) := by
          rw [← zpow_add₀ two_ne_zero]
          congr 1
          omega
      _ ≤ num := num_low
  have high : (num : ℚ) / den < 2 ^ (estimate + 1) := by
    rw [div_lt_iff₀ den_pos']
    calc (num : ℚ) < 2 ^ ((num.log2 : ℤ) + 1) := num_high
      _ = 2 ^ (estimate + 1) * 2 ^ (den.log2 : ℤ) := by
          rw [← zpow_add₀ two_ne_zero]
          congr 1
          omega
      _ ≤ 2 ^ (estimate + 1) * den :=
          mul_le_mul_of_nonneg_left den_low (zpow_pos two_pos _).le
  have low_log := (Int.zpow_le_iff_le_log Nat.one_lt_two positive).mp low
  have high_log := (Int.lt_zpow_iff_log_lt Nat.one_lt_two positive).mp high
  -- The comparison of the scaled fraction with one decides between the two.
  have scaled_pos : (0 : ℚ) < (scaleFraction num den (-estimate)).2 :=
    Nat.cast_pos.mpr (scaleFraction_snd_pos num den_pos _)
  have leads : (scaleFraction num den (-estimate)).1 < (scaleFraction num den (-estimate)).2 ↔
      Int.log 2 ((num : ℚ) / den) < estimate := by
    have one_more := Int.lt_zpow_iff_log_lt (R := ℚ) Nat.one_lt_two (x := estimate) positive
    rw [← one_more, ← @Nat.cast_lt ℚ, ← div_lt_one scaled_pos, ratio_scaleFraction, zpow_neg,
      ← div_eq_mul_inv, div_lt_one (zpow_pos two_pos _), Nat.cast_ofNat]
  simp only [placeExponent, estimate_eq, leads]
  split <;> omega

/-- The significand that a fraction is rounded to at its last place. -/
def significandAt (num den : Nat) : Nat :=
  let scaled := scaleFraction num den (-placeExponent format num den)
  roundDiv scaled.1 scaled.2

/-- The last place of a rounded fraction, one higher where the significand has a bit too many. -/
def lastPlace (num den : Nat) : Int :=
  if significandAt format num den = Nat.pow 2 format.precision then
    placeExponent format num den + 1
  else placeExponent format num den

/-- The fraction in units of its place is what is rounded to its significand. -/
theorem ratio_at_place (num den : Nat) :
    let scaled := scaleFraction num den (-placeExponent format num den)
    (scaled.1 : ℚ) / scaled.2 = num / den / 2 ^ placeExponent format num den := by
  intro scaled
  rw [ratio_scaleFraction, zpow_neg, div_eq_mul_inv ((num : ℚ) / den)]

/-- A significand has at most one bit too many, and then all others are zero. -/
theorem significandAt_le (num_pos : 0 < num) (den_pos : 0 < den) :
    significandAt format num den ≤ 2 ^ format.precision := by
  apply roundDiv_le (scaleFraction_snd_pos num den_pos _)
  rw [ratio_at_place, div_le_iff₀ (zpow_pos two_pos _), Nat.cast_pow, Nat.cast_ofNat,
    ← zpow_natCast, ← zpow_add₀ two_ne_zero]
  have leading := Int.lt_zpow_succ_log_self Nat.one_lt_two ((num : ℚ) / den)
  have place := placeExponent_eq format num_pos den_pos
  calc (num : ℚ) / den ≤ 2 ^ (Int.log 2 ((num : ℚ) / den) + 1) := leading.le
    _ ≤ 2 ^ ((format.precision : ℤ) + placeExponent format num den) :=
      zpow_le_zpow_right₀ one_le_two (by omega)

variable {format}

/-- Above the smallest place a significand has all its bits. -/
theorem le_significandAt (precise : 0 < format.precision) (num_pos : 0 < num) (den_pos : 0 < den)
    (above : format.minExponent < placeExponent format num den) :
    2 ^ (format.precision - 1) ≤ significandAt format num den := by
  apply le_roundDiv (scaleFraction_snd_pos num den_pos _)
  have positive := ratio_pos num_pos den_pos
  rw [ratio_at_place, le_div_iff₀ (zpow_pos two_pos _), Nat.cast_pow, Nat.cast_ofNat,
    ← zpow_natCast, ← zpow_add₀ two_ne_zero]
  have leading := Int.zpow_log_le_self Nat.one_lt_two positive
  have place := placeExponent_eq format num_pos den_pos
  calc (2 : ℚ) ^ (((format.precision - 1 : Nat) : ℤ) + placeExponent format num den) ≤
        2 ^ Int.log 2 ((num : ℚ) / den) := zpow_le_zpow_right₀ one_le_two (by omega)
    _ ≤ num / den := leading

/-- Rounding keeps the order of positive fractions, and so does the last place. -/
theorem significandAt_mono (precise : 0 < format.precision) (num_pos : 0 < num)
    (num_pos' : 0 < num') (den_pos : 0 < den) (den_pos' : 0 < den')
    (below : (num : ℚ) / den ≤ num' / den') :
    (significandAt format num den : ℚ) * 2 ^ placeExponent format num den ≤
        significandAt format num' den' * 2 ^ placeExponent format num' den' ∧
      lastPlace format num den ≤ lastPlace format num' den' := by
  have positive := ratio_pos num_pos den_pos
  have leading := Int.log_mono_right (b := 2) positive below
  have place_eq := placeExponent_eq format num_pos den_pos
  have place_eq' := placeExponent_eq format num_pos' den_pos'
  have fits := significandAt_le format num_pos den_pos
  have fits' := significandAt_le format num_pos' den_pos'
  rcases (show placeExponent format num den ≤ placeExponent format num' den' by omega).eq_or_lt
    with same | lower
  · -- At the same place the significands keep the order, and so does a bit too many.
    have order : significandAt format num den ≤ significandAt format num' den' := by
      apply roundDiv_mono (scaleFraction_snd_pos num den_pos _)
        (scaleFraction_snd_pos num' den_pos' _)
      rw [ratio_at_place, ratio_at_place, same]
      exact div_le_div_of_nonneg_right below (zpow_pos two_pos _).le
    constructor
    · rw [same]
      exact mul_le_mul_of_nonneg_right (Nat.cast_le.mpr order) (zpow_pos two_pos _).le
    · unfold lastPlace
      rw [Nat.pow_eq]
      split <;> split <;> omega
  · -- A power of two lies between fractions with different places.
    have full := le_significandAt precise num_pos' den_pos' (by omega)
    constructor
    · calc (significandAt format num den : ℚ) * 2 ^ placeExponent format num den ≤
            2 ^ (format.precision : ℤ) * 2 ^ placeExponent format num den := by
              apply mul_le_mul_of_nonneg_right _ (zpow_pos two_pos _).le
              rw [zpow_natCast]
              exact_mod_cast fits
        _ ≤ 2 ^ ((format.precision - 1 : Nat) : ℤ) * 2 ^ placeExponent format num' den' := by
              rw [← zpow_add₀ two_ne_zero, ← zpow_add₀ two_ne_zero]
              exact zpow_le_zpow_right₀ one_le_two (by omega)
        _ ≤ significandAt format num' den' * 2 ^ placeExponent format num' den' := by
              apply mul_le_mul_of_nonneg_right _ (zpow_pos two_pos _).le
              rw [zpow_natCast]
              exact_mod_cast full
    · unfold lastPlace
      split <;> split <;> omega

/-- A rounded fraction is infinite if its last place is past the largest one, and otherwise a
significand at that place. -/
theorem ofFraction_eq (num_pos : 0 < num) (negative : Bool) :
    ofFraction format negative num den =
      if format.maxExponent < lastPlace format num den then infinite negative
      else finite negative
        (if significandAt format num den = Nat.pow 2 format.precision then
          Nat.pow 2 (format.precision - 1) else significandAt format num den)
        (lastPlace format num den) := by
  rw [ofFraction, if_neg (Nat.ne_of_gt num_pos)]
  rfl

/-- The bit too many does not change the number. -/
theorem significand_mul_two_zpow (precise : 0 < format.precision) (num den : Nat) :
    ((if significandAt format num den = Nat.pow 2 format.precision then
        Nat.pow 2 (format.precision - 1) else significandAt format num den : Nat) : ℚ) *
        2 ^ lastPlace format num den =
      significandAt format num den * 2 ^ placeExponent format num den := by
  unfold lastPlace
  split
  · rename_i carries
    obtain ⟨bits, bits_eq⟩ : ∃ bits, format.precision = bits + 1 :=
      ⟨format.precision - 1, by omega⟩
    rw [carries, bits_eq, zpow_add_one₀ two_ne_zero]
    simp only [Nat.pow_eq, Nat.add_sub_cancel, pow_succ, Nat.cast_mul, Nat.cast_pow,
      Nat.cast_ofNat]
    ring
  · rfl

end Places

end Binary

end Receipt.Number
