import Receipt.Proofs.Number.Order
import Receipt.Proofs.Qr.Scaling

/-!
# Symbols that are wider than their size

The side of a module's block is the size shared among the modules of a row, a half going up.  A size
of fewer dots than modules can therefore still leave each module its dot: the symbol is drawn, wider
than asked for, if the size has a dot for every two modules, and is left out if it has fewer.  The
quotient is one of singles, which is exact enough for that up to 11184810 modules in a row; so wide a
symbol is never drawn, since its dots fit no envelope.
-/

set_option autoImplicit false

namespace Receipt.Matrix

open Number (Single Format)
open Number.Binary (AtMost IsRounded number)

/-- Numbers of up to 24 bits are singles. -/
theorem exists_single_of_lt {n : Nat} (short : n < 16777216) :
    ∃ significand exponent, Single.ofNat n = .finite false significand exponent ∧
      number false significand exponent = n :=
  Number.Binary.exists_ofNat_of_lt (by decide) (by decide) (by decide) short

/-- Positive numbers of up to 24 bits are divisors. -/
theorem exists_divisor_of_lt {n : Nat} (n_pos : 0 < n) (short : n < 16777216) :
    ∃ divisor place, 0 < divisor ∧ Single.ofNat n = .finite false divisor place ∧
      (divisor : ℚ) * 2 ^ place = n := by
  obtain ⟨divisor, place, single_eq, number_eq⟩ := exists_single_of_lt short
  have positive : 0 < number false divisor place := by
    rw [number_eq]
    exact Nat.cast_pos.mpr n_pos
  have divisor_pos := Nat.pos_of_ne_zero (Number.Binary.number_pos_iff.mp positive).2
  exact ⟨divisor, place, divisor_pos, single_eq, number_eq⟩

/-- A quotient of such numbers is rounded once. -/
theorem isRounded_quotient {count modules : Nat} (count_short : count < 16777216)
    (modules_short : modules < 16777216) (modules_pos : 0 < modules) :
    IsRounded Format.single (count / modules) ((Single.ofNat count).div (Single.ofNat modules)) := by
  obtain ⟨dividend, shift, count_eq, count_number⟩ := exists_single_of_lt count_short
  obtain ⟨divisor, place, divisor_pos, modules_eq, modules_number⟩ :=
    exists_divisor_of_lt modules_pos modules_short
  have rounded := Number.Binary.isRounded_div Format.single false dividend shift divisor_pos place
  rw [count_number, modules_number] at rounded
  rw [count_eq, modules_eq]
  exact rounded

variable {matrix : Matrix} {size : Int}

/-- With fewer dots than half its modules a row leaves no dot for a module. -/
theorem coefficient_lt_one (modules_pos : 0 < matrix.width) (short : matrix.width ≤ 11184810)
    (wider : 2 * size < matrix.width) : matrix.coefficient size < 1 := by
  -- The largest such size is half the modules, less a half.
  generalize most_eq : (matrix.width - 1) / 2 = most
  have below : size ≤ most := by omega
  obtain ⟨divisor, place, divisor_pos, modules_eq, -⟩ :=
    exists_divisor_of_lt modules_pos (by omega)
  have precise : 0 < Format.single.precision := by decide
  have sizes : AtMost (Single.ofInt size) (Single.ofNat most) :=
    (Number.Binary.isRounded_ofInt Format.single size).atMost precise
      (Number.Binary.isRounded_ofNat Format.single most) (by exact_mod_cast below)
  have quotients : AtMost ((Single.ofInt size).div (Single.ofNat matrix.width))
      ((Single.ofNat most).div (Single.ofNat matrix.width)) := by
    rw [modules_eq]
    exact Number.Binary.div_atMost precise divisor_pos place sizes
  -- The quotient of the widest symbol bounds those of all narrower ones.
  have bound : IsRounded Format.single ((11184809 : Nat) / (22369620 : Nat))
      (Single.ofRatio 11184809 22369620) := ⟨false, _, _, by decide, rfl, rfl⟩
  have under : (most : ℚ) / matrix.width ≤ (11184809 : Nat) / (22369620 : Nat) := by
    rw [div_le_div_iff₀ (Nat.cast_pos.mpr modules_pos) (by norm_num)]
    exact_mod_cast (by omega : most * 22369620 ≤ 11184809 * matrix.width)
  have rounded : AtMost ((Single.ofNat most).div (Single.ofNat matrix.width))
      (Single.ofRatio 11184809 22369620) :=
    (isRounded_quotient (by omega) (by omega) modules_pos).atMost precise bound under
  have least : (Single.ofRatio 11184809 22369620).roundHalfUp = 0 := by decide +kernel
  calc matrix.coefficient size
      ≤ ((Single.ofNat most).div (Single.ofNat matrix.width)).roundHalfUp :=
        Single.roundHalfUp_mono quotients
    _ ≤ (Single.ofRatio 11184809 22369620).roundHalfUp := Single.roundHalfUp_mono rounded
    _ < 1 := by
        rw [least]
        decide

/-- With fewer dots than modules, but no fewer than half as many, a row leaves one dot for each
module. -/
theorem coefficient_eq_one (short : matrix.width < 16777216) (narrower : size < matrix.width)
    (half : matrix.width ≤ 2 * size) : matrix.coefficient size = 1 := by
  obtain ⟨count, rfl⟩ := Int.eq_ofNat_of_zero_le (show 0 ≤ size by omega)
  have modules_pos : (0 : ℚ) < matrix.width := Nat.cast_pos.mpr (by omega)
  have rounded : IsRounded Format.single (count / matrix.width)
      ((Single.ofNat count).div (Single.ofNat matrix.width)) :=
    isRounded_quotient (by omega) short (by omega)
  have low : IsRounded Format.single ((1 : Nat) / (2 : Nat)) (Single.ofRatio 1 2) :=
    ⟨false, _, _, by decide, rfl, rfl⟩
  have high : IsRounded Format.single ((1 : Nat) / (1 : Nat)) (Single.ofRatio 1 1) :=
    ⟨false, _, _, by decide, rfl, rfl⟩
  have above : ((1 : Nat) / (2 : Nat) : ℚ) ≤ count / matrix.width := by
    rw [div_le_div_iff₀ (by norm_num) modules_pos]
    exact_mod_cast (by omega : 1 * matrix.width ≤ count * 2)
  have under : (count : ℚ) / matrix.width ≤ (1 : Nat) / (1 : Nat) := by
    rw [div_le_div_iff₀ modules_pos (by norm_num)]
    exact_mod_cast (by omega : count * 1 ≤ 1 * matrix.width)
  have precise : 0 < Format.single.precision := by decide
  have least := Single.roundHalfUp_mono (low.atMost precise rounded above)
  have most := Single.roundHalfUp_mono (rounded.atMost precise high under)
  have least_eq : (Single.ofRatio 1 2).roundHalfUp = 1 := by decide +kernel
  have most_eq : (Single.ofRatio 1 1).roundHalfUp = 1 := by decide +kernel
  rw [least_eq] at least
  rw [most_eq] at most
  exact le_antisymm most least

/-- What is scaled is left out, refused for its size or drawn with a row of dots for each row of its
blocks. -/
theorem scale_cases (matrix : Matrix) (size : Int) :
    (matrix.width = 0 ∨ matrix.coefficient size < 1) ∧ matrix.scale size = .ok .empty ∨
      65535 < matrix.width * (matrix.coefficient size).toNat ∧
        matrix.scale size = .error (.image (.symbolTooLarge size)) ∨
      0 < matrix.width ∧ 1 ≤ matrix.coefficient size ∧
        matrix.width * (matrix.coefficient size).toNat ≤ 65535 := by
  by_cases left : matrix.width = 0 ∨ matrix.coefficient size < 1
  · exact .inl ⟨left, if_pos left⟩
  · right
    by_cases large : 65535 < matrix.width * (matrix.coefficient size).toNat
    · refine .inl ⟨large, ?_⟩
      rw [scale, if_neg left, if_pos large]
    · exact .inr ⟨by omega, by omega, by omega⟩

/-- A symbol of more than twice as many modules as dots is left out. -/
theorem scale_of_wider (short : matrix.width ≤ 11184810) (wider : 2 * size < matrix.width) :
    matrix.scale size = .ok .empty := by
  apply if_pos
  rcases Nat.eq_zero_or_pos matrix.width with none | modules_pos
  · exact .inl none
  · exact .inr (coefficient_lt_one modules_pos short wider)

/-- A picture with dots is that of a symbol that an envelope holds and that has at most two modules
for each dot of its size. -/
theorem width_le_of_drawn {image : Raster} (made : matrix.scale size = .ok image)
    (drawn : image ≠ .empty) : matrix.width ≤ 65535 ∧ (matrix.width : Int) ≤ 2 * size := by
  rcases scale_cases matrix size with ⟨-, left⟩ | ⟨-, refused⟩ | ⟨modules_pos, side_pos, fits⟩
  · rw [left, Except.ok.injEq] at made
    exact absurd made.symm drawn
  · rw [refused] at made
    cases made
  · have narrow : matrix.width ≤ 65535 := by
      refine le_trans (Nat.le_mul_of_pos_right _ ?_) fits
      omega
    refine ⟨narrow, ?_⟩
    by_contra wider
    have none : matrix.coefficient size < 1 :=
      coefficient_lt_one modules_pos (by omega) (by omega)
    omega

/-- When a symbol is drawn wider than its size.  With a size of fewer dots than half its modules in a
row, also zero and below, it is left out; one of more than 11184810 modules in a row may be refused
instead, as too large.  A picture with dots has at most two modules for each dot of the size.  A size
of fewer dots than modules, but no fewer than half as many, draws one dot for each module. -/
theorem drawn_from_half_its_width (matrix : Matrix) (size : Int) :
    (2 * size < matrix.width → matrix.scale size = .ok .empty ∨
      11184810 < matrix.width ∧ matrix.scale size = .error (.image (.symbolTooLarge size))) ∧
    (∀ image, matrix.scale size = .ok image → image ≠ .empty →
      matrix.width ≤ 65535 ∧ (matrix.width : Int) ≤ 2 * size) ∧
    (size < matrix.width → matrix.width ≤ 2 * size → matrix.width ≤ 65535 →
      ∃ image, matrix.scale size = .ok image ∧ image ≠ .empty ∧ image.rows = matrix.width ∧
        ∀ x y, image.isBlack x y = matrix.isDark x y) := by
  refine ⟨?_, fun image made drawn => width_le_of_drawn made drawn, ?_⟩
  · intro wider
    by_cases short : matrix.width ≤ 11184810
    · exact .inl (scale_of_wider short wider)
    · rcases scale_cases matrix size with ⟨-, left⟩ | ⟨-, refused⟩ | ⟨-, side_pos, fits⟩
      · exact .inl left
      · exact .inr ⟨Nat.not_le.mp short, refused⟩
      · have narrow := Nat.le_mul_of_pos_right matrix.width
          (show 0 < (matrix.coefficient size).toNat by omega)
        omega
  · intro narrower half fits
    have side : matrix.coefficient size = (1 : Nat) :=
      coefficient_eq_one (by omega) narrower half
    obtain ⟨image, made, rows, -, dots⟩ :=
      matrix.exists_scale (by omega) Nat.one_pos side (by omega)
    rw [Nat.mul_one] at rows
    refine ⟨image, made, ?_, rows, fun x y => ?_⟩
    · rintro rfl
      have none : (0 : Nat) = matrix.width := rows
      omega
    · rw [Bool.eq_iff_iff, dots, Nat.mul_one, Nat.div_one, Nat.div_one]
      constructor
      · exact fun all => all.2.2
      · intro dark
        obtain ⟨right, low⟩ := lt_width_of_isDark dark
        exact ⟨right, low, dark⟩

/-- Two by two modules, those of the diagonal dark. -/
def diagonal : Matrix :=
  ⟨2, #[true, false, false, true], by decide⟩

/-- A size without dots leaves the symbol out, and a size of one dot draws it with one dot for each
module. -/
theorem drawn_from_half_its_width_diagonal :
    2 * (0 : Int) < diagonal.width ∧ diagonal.scale 0 = .ok .empty ∧
      (1 : Int) < diagonal.width ∧ diagonal.width ≤ 2 * (1 : Int) ∧ diagonal.width ≤ 65535 ∧
      ∃ image, diagonal.scale 1 = .ok image ∧ image ≠ .empty ∧ image.rows = 2 ∧
        image.isBlack 1 1 = true ∧ image.isBlack 1 0 = false := by
  have left : diagonal.scale 0 = .ok .empty := by
    rcases (drawn_from_half_its_width diagonal 0).1 (by decide) with left | ⟨huge, -⟩
    · exact left
    · exact absurd huge (by decide)
  obtain ⟨image, made, drawn, rows, dots⟩ :=
    (drawn_from_half_its_width diagonal 1).2.2 (by decide) (by decide) (by decide)
  obtain ⟨narrow, half⟩ := (drawn_from_half_its_width diagonal 1).2.1 image made drawn
  refine ⟨by decide, left, by decide, half, narrow, image, made, drawn, rows, ?_, ?_⟩
  · rw [dots]
    decide
  · rw [dots]
    decide

/-- A matrix without modules: the square of its width is zero as a word. -/
def hollow : Matrix :=
  ⟨4294967296, #[], by decide⟩

/-- A symbol two modules wide is drawn for a size of one dot.  A matrix of more modules in a row than
single precision tells apart is refused for a size of almost half as many dots. -/
theorem symbol_wider_than_size :
    (1 : Int) < diagonal.width ∧
      (∃ image, diagonal.scale 1 = .ok image ∧ image ≠ .empty ∧ image.isBlack 0 0 = true) ∧
      2 * (2147483647 : Int) < hollow.width ∧
      hollow.scale 2147483647 = .error (.image (.symbolTooLarge 2147483647)) := by
  have side : diagonal.coefficient 1 = (1 : Nat) := by decide +kernel
  obtain ⟨image, made, rows, -, dots⟩ :=
    diagonal.exists_scale (by decide) Nat.one_pos side (by decide)
  refine ⟨by decide, ⟨image, made, ?_, ?_⟩, by decide, ?_⟩
  · rintro rfl
    exact absurd rows (by decide)
  · rw [dots]
    decide
  · decide +kernel

end Receipt.Matrix
