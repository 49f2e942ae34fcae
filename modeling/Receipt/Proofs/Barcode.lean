import Receipt.Barcode
import Receipt.Proofs.Profile
import Receipt.Proofs.Result

/-!
# Bar codes that are built fit the paper

A bar code is built from a completed code and a width of its modules.  The target of the width is
never above the width of the paper, whatever measure is asked for.  The nearest width may exceed the
target by half a dot for each module, so that one dot less for each of them stays within the paper.
-/

set_option autoImplicit false

namespace Receipt.Barcode

variable {profile : Profile} {symbology : Symbology} {code : List Char}
  {widthMm heightMm : Number.Single} {textPosition : TextPosition} {barcode : Barcode}

/-- A bar code is built exactly if its code can be completed and its modules have a width. -/
theorem make_eq_ok :
    make profile symbology code widthMm heightMm textPosition = .ok barcode ↔
      ∃ completed, completeCode symbology.form code = .ok completed ∧ ∃ moduleWidth,
        fitModule profile widthMm (symbology.modules completed.length) = .ok moduleWidth ∧
        ⟨symbology, completed, textPosition, moduleWidth, profile.mmToPx heightMm⟩ = barcode := by
  have chained : make profile symbology code widthMm heightMm textPosition =
      completeCode symbology.form code >>= fun completed =>
        (fun moduleWidth => Barcode.mk symbology completed textPosition moduleWidth
          (profile.mmToPx heightMm)) <$>
            fitModule profile widthMm (symbology.modules completed.length) := by
    unfold make
    cases completeCode symbology.form code with
    | error failure => rfl
    | ok completed =>
        dsimp only [bind, Except.bind]
        cases fitModule profile widthMm (symbology.modules completed.length) <;> rfl
  rw [chained, Result.bind_eq_ok]
  simp only [Result.map_eq_ok]

/-- No target is wider than the paper. -/
theorem targetPx_le (profile : Profile) (widthMm : Number.Single) :
    targetPx profile widthMm ≤ profile.widthPx := by
  unfold targetPx
  generalize (if widthMm.isZero then profile.widthMm.mul defaultShare else widthMm) = target
  by_cases above : Number.Binary.lt profile.widthMm target = true
  · exact (if_pos above).le
  · rw [if_neg above]
    exact profile.mmToPx_le_widthPx (Bool.eq_false_iff.mpr above)

/-- A width of the modules is at least one dot, and so many modules fit the paper. -/
theorem fitModule_fits {modules moduleWidth : Nat} (modules_pos : 0 < modules)
    (fitted : fitModule profile widthMm modules = .ok moduleWidth) :
    1 ≤ moduleWidth ∧ moduleWidth * modules ≤ profile.widthPx := by
  have on_paper := targetPx_le profile widthMm
  unfold fitModule at fitted
  dsimp only at fitted
  generalize targetPx profile widthMm = target at on_paper fitted
  have near : (2 * target + modules) / (2 * modules) * (2 * modules) ≤ 2 * target + modules :=
    Int.ediv_mul_le _ (by omega)
  generalize (2 * target + (modules : Int)) / (2 * modules) = nearest at near fitted
  generalize fitting_eq : (if (profile.widthPx : Int) < nearest * modules then nearest - 1
    else nearest) = fitting at fitted
  -- The nearest width is past the target by at most half a dot for each module.
  have half_past : 2 * (nearest * modules) ≤ 2 * target + modules := by linarith
  have fits : fitting * modules ≤ profile.widthPx := by
    rw [← fitting_eq]
    split
    · rw [sub_mul, one_mul]
      omega
    · omega
  split at fitted
  · cases fitted
  · cases fitted
    refine ⟨by omega, ?_⟩
    have whole : ((fitting.toNat : Nat) : Int) = fitting := Int.toNat_of_nonneg (by omega)
    rw [← whole] at fits
    exact_mod_cast fits

/-- Every code takes at least one module. -/
theorem modules_pos (symbology : Symbology) (length : Nat) : 0 < symbology.modules length := by
  cases symbology <;> exact Nat.succ_pos _

/-- Every bar code that is built fits the paper: its modules are at least one dot wide, and all of
them together are no wider than the paper. -/
theorem fits_paper
    (made : make profile symbology code widthMm heightMm textPosition = .ok barcode) :
    1 ≤ barcode.moduleWidth ∧
      barcode.moduleWidth * symbology.modules barcode.code.length ≤ profile.widthPx := by
  obtain ⟨completed, -, moduleWidth, fitted, rfl⟩ := make_eq_ok.mp made
  exact fitModule_fits (modules_pos symbology completed.length) fitted

/-- A bar code over the whole width of the paper, whose nearest width of four dots for each of its
102 modules would exceed the 384 dots of the paper. -/
theorem fits_paper_edge :
    make .mm58 .ean13 "590123412345".toList (Number.Single.ofNat 48) (Number.Single.ofNat 10)
        .below = .ok ⟨.ean13, "5901234123457".toList, .below, 3, 80⟩ ∧
      1 ≤ 3 ∧ 3 * Symbology.ean13.modules 13 ≤ Profile.mm58.widthPx := by
  have made : make .mm58 .ean13 "590123412345".toList (Number.Single.ofNat 48)
      (Number.Single.ofNat 10) .below = .ok ⟨.ean13, "5901234123457".toList, .below, 3, 80⟩ := by
    decide +kernel
  exact ⟨made, fits_paper made⟩

end Receipt.Barcode
