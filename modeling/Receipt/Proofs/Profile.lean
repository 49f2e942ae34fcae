import Receipt.Profile
import Receipt.Proofs.Number.Order

/-!
# Measures in dots

A longer measure takes no fewer dots, at every resolution.  The dots are a product with the
resolution, a quotient by the millimetres of an inch and a sum with one half, each of them rounded,
and the floor of that; all of these keep the order of measures.  A measure that is not above the
width of the paper therefore takes no more dots than the paper has.
-/

set_option autoImplicit false

namespace Receipt

open Number (Binary Single Format)
open Number.Binary (AtMost number)

namespace Profile

variable {dpi : Nat} {mm wider : Single}

/-- A resolution is a positive number, or infinite where it is too large for a single. -/
theorem single_ofNat (dpi_pos : 0 < dpi) :
    Single.ofNat dpi = .infinite false ∨
      ∃ factor place, 0 < factor ∧ Single.ofNat dpi = .finite false factor place := by
  have one : Binary.ofNat Format.single 1 = .finite false 8388608 (-23) := by
    decide +kernel
  rcases Binary.ofFraction_infinite_or_finite Format.single false dpi 1 with
    past | ⟨factor, place, within⟩
  · exact .inl past
  · refine .inr ⟨factor, place, ?_, within⟩
    have order : AtMost (Binary.ofNat .single 1) (Binary.ofNat .single dpi) :=
      Binary.ofNat_atMost (by decide) dpi_pos
    rw [one, Binary.ofNat, within] at order
    cases order with
    | finite below =>
        have positive := (Binary.number_pos_iff.mpr ⟨rfl, by decide⟩).trans_le below
        exact Nat.pos_of_ne_zero (Binary.number_pos_iff.mp positive).2

/-- The length of an inch in millimetres is rounded to a single. -/
theorem inch_eq : inch = .finite false 13316915 (-19) := by
  decide +kernel

/-- A measure that is no number takes no dots. -/
theorem dotsAt_nan (dpi : Nat) : dotsAt dpi .nan = 0 :=
  rfl

/-- Dots are counted within 32 bits. -/
theorem dotsAt_bounds (dpi : Nat) (mm : Single) :
    -2147483648 ≤ dotsAt dpi mm ∧ dotsAt dpi mm ≤ 2147483647 :=
  Binary.floor32_bounds _

/-- Paper is at most 2^31 - 1 dots wide, and seven more for whole bytes. -/
theorem widthPx_le (profile : Profile) : profile.widthPx ≤ 2147483654 := by
  have most := (dotsAt_bounds profile.dpi profile.widthMm).2
  unfold widthPx rasterPx mmToPx
  omega

/-- At an infinite resolution only the sign of a measure counts: zero takes no dots, and any other
measure as many as there can be. -/
theorem dotsAt_of_infinite (past : Single.ofNat dpi = .infinite false) :
    (∀ negative, dotsAt dpi (.infinite negative) = if negative then -2147483648 else 2147483647) ∧
      ∀ negative significand exponent, dotsAt dpi (.finite negative significand exponent) =
        if number negative significand exponent < 0 then -2147483648
        else if 0 < number negative significand exponent then 2147483647 else 0 := by
  have infinite (negative : Bool) : (Single.div (.infinite negative) inch).roundHalfUp =
      if negative then -2147483648 else 2147483647 := by
    rw [Single.roundHalfUp, inch_eq, Single.half_eq]
    cases negative <;> rfl
  constructor
  · intro negative
    rw [← infinite, dotsAt, past]
    cases negative <;> rfl
  · intro negative significand exponent
    rw [dotsAt, past, Single.mul, Binary.mul]
    by_cases none : significand = 0
    · rw [if_pos none, if_neg fun below => (Binary.number_neg_iff.mp below).2 none,
        if_neg fun above => (Binary.number_pos_iff.mp above).2 none]
      rfl
    · rw [if_neg none, Bool.bne_false, infinite]
      cases negative with
      | false =>
          rw [if_neg (not_lt.mpr (Binary.number_false_nonneg _ _)),
            if_pos (Binary.number_pos_iff.mpr ⟨rfl, none⟩)]
          rfl
      | true =>
          rw [if_pos (Binary.number_neg_iff.mpr ⟨rfl, none⟩)]
          rfl

/-- A longer measure takes no fewer dots. -/
theorem dotsAt_mono (dpi_pos : 0 < dpi) (order : AtMost mm wider) :
    dotsAt dpi mm ≤ dotsAt dpi wider := by
  rcases single_ofNat dpi_pos with past | ⟨factor, place, factor_pos, within⟩
  · obtain ⟨infinite, finite⟩ := dotsAt_of_infinite past
    cases order with
    | low isNumber =>
        rw [infinite]
        exact (dotsAt_bounds dpi wider).1
    | high isNumber =>
        rw [infinite]
        exact (dotsAt_bounds dpi mm).2
    | finite below =>
        rw [finite, finite]
        split_ifs <;> first | omega | linarith
  · have precise : 0 < Format.single.precision := by decide
    unfold dotsAt Single.div Single.mul
    rw [within, inch_eq]
    exact Single.roundHalfUp_mono
      (Binary.div_atMost precise (by decide) _ (Binary.mul_atMost precise factor_pos _ order))

/-- A measure that the paper's width is not below takes no more dots than the paper has. -/
theorem mmToPx_le_widthPx (profile : Profile)
    (within : Binary.lt profile.widthMm mm = false) : profile.mmToPx mm ≤ profile.widthPx := by
  have atMost_paper : profile.mmToPx mm ≤ profile.rasterPx := by
    by_cases isNumber : mm = .nan
    · rw [isNumber, mmToPx, dotsAt_nan]
      exact Int.natCast_nonneg _
    · have paper : profile.widthMm ≠ .nan := by
        intro none
        have positive := profile.widthMm_positive
        rw [none] at positive
        cases positive
      exact (dotsAt_mono profile.dpi_pos
        (Binary.atMost_of_lt_eq_false paper isNumber within)).trans (Int.self_le_toNat _)
  unfold widthPx
  omega

end Profile

end Receipt
