import Mathlib.Data.Finset.Prod
import Mathlib.Order.Interval.Finset.Nat
import Receipt.Proofs.Raster.Rows
import Receipt.Qr.Matrix

/-!
# Symbols as dots

A symbol is drawn in blocks: each of its modules becomes a square of dots, as many on a side as the
size leaves for a module.  Blocks do not overlap, and together they are the symbol; what a row of
bytes has behind them is white.  Blocks need not begin where bytes do.
-/

set_option autoImplicit false

namespace Receipt.Matrix

/-- The dots of the block of a module, as column and row. -/
def block (side column row : Nat) : Finset (Nat × Nat) :=
  Finset.Ico (side * column) (side * (column + 1)) ×ˢ Finset.Ico (side * row) (side * (row + 1))

/-- A block has as many dots as the square of its side. -/
theorem card_block (side column row : Nat) : (block side column row).card = side * side := by
  have breadth (place : Nat) : side * (place + 1) - side * place = side := by
    rw [Nat.mul_succ, Nat.add_sub_cancel_left]
  rw [block, Finset.card_product, Nat.card_Ico, Nat.card_Ico, breadth, breadth]

/-- A dot lies in the block of one module. -/
theorem mem_block_iff {side : Nat} (side_pos : 0 < side) {column row x y : Nat} :
    (x, y) ∈ block side column row ↔ x / side = column ∧ y / side = row := by
  simp only [block, Finset.mem_product, Finset.mem_Ico, Nat.div_eq_iff side_pos,
    Nat.mul_comm side, Nat.succ_mul]
  omega

/-- The blocks of two modules have no dot in common. -/
theorem disjoint_block {side : Nat} (side_pos : 0 < side) :
    Pairwise fun place other : Nat × Nat =>
      Disjoint (block side place.1 place.2) (block side other.1 other.2) := by
  intro place other apart
  rw [Finset.disjoint_left]
  rintro ⟨x, y⟩ first second
  rw [mem_block_iff side_pos] at first second
  exact apart (Prod.ext (first.1.symm.trans second.1) (first.2.symm.trans second.2))

/-- Rows that are written `side` times each are the rows that many times as far apart. -/
theorem flatMap_replicate_range (side count : Nat) (row : Nat → List UInt8) :
    (List.range count).flatMap (fun y => List.replicate side (row y)) =
      (List.range (count * side)).map (fun y => row (y / side)) := by
  induction count with
  | zero => simp
  | succ count ih =>
      have last : (List.range side).map (fun i => row ((count * side + i) / side)) =
          List.replicate side (row count) := by
        have same : ∀ i ∈ List.range side, row ((count * side + i) / side) = row count := by
          intro i mem
          have low := List.mem_range.mp mem
          rw [Nat.mul_comm, Nat.mul_add_div (by omega), Nat.div_eq_of_lt low, Nat.add_zero]
        rw [List.map_congr_left same, List.map_const', List.length_range]
      rw [List.range_succ, List.flatMap_append, ih, List.flatMap_singleton, Nat.succ_mul,
        List.range_add, List.map_append, List.map_map, ← last]
      rfl

/-- A dot of a row is that of its module, and white behind the last one. -/
theorem getD_scaledRow (matrix : Matrix) (side y x : Nat) :
    (matrix.scaledRow side y).getD x false =
      (decide (x < matrix.width * side) && matrix.isDark (x / side) y) := by
  by_cases inside : x < matrix.width * side
  · simp [scaledRow, inside]
  · simp [scaledRow, inside]

/-- Dark modules are inside the matrix. -/
theorem lt_width_of_isDark {matrix : Matrix} {x y : Nat} (dark : matrix.isDark x y = true) :
    x < matrix.width ∧ y < matrix.width := by
  simp only [isDark, Bool.and_eq_true, decide_eq_true_eq] at dark
  exact dark.1

/-- A symbol that an envelope can hold is drawn with a row of dots for each row of its blocks. -/
theorem exists_scale (matrix : Matrix) {size : Int} {side : Nat} (modules : 1 ≤ matrix.width)
    (side_pos : 0 < side) (side_eq : matrix.coefficient size = side)
    (fits : matrix.width * side ≤ 65535) :
    ∃ image, matrix.scale size = .ok image ∧ image.rows = matrix.width * side ∧
      image.bytesPerRow = (matrix.width * side + 7) / 8 ∧
      ∀ x y, image.isBlack x y = true ↔ x < matrix.width * side ∧ y < matrix.width * side ∧
        matrix.isDark (x / side) (y / side) = true := by
  have drawn : ¬ (matrix.width = 0 ∨ matrix.coefficient size < 1) := by omega
  have sized : ∀ y < matrix.width * side,
      (Dots.packRow (matrix.scaledRow side (y / side))).length = (matrix.width * side + 7) / 8 := by
    intro y _
    simp [Dots.length_packRow, scaledRow]
  obtain ⟨image, made, row_length, row_count, dots⟩ :=
    Raster.exists_ofRows_range (by omega) fits sized
  refine ⟨image, ?_, row_count, row_length, fun x y => ?_⟩
  · rw [scale, if_neg drawn, side_eq, Int.toNat_natCast, if_neg (Nat.not_lt.mpr fits),
      flatMap_replicate_range, made]
  · rw [dots, Dots.inRow_packRow, getD_scaledRow]
    simp only [Bool.and_eq_true, decide_eq_true_eq]
    exact and_left_comm

/-- A symbol is drawn exactly.  With `side` dots for a module, a side of more dots than an envelope
holds is an error.  Otherwise the raster has as many rows, each in the bytes that its dots take, and
the dot in column `x` and row `y` is that of the module in column `x / side` and row `y / side`: the
black dots are those in the blocks of dark modules, and what is behind a row is white. -/
theorem scale_draws_blocks (matrix : Matrix) (size : Int) (modules : 1 ≤ matrix.width)
    (drawable : 1 ≤ matrix.coefficient size) :
    let side := (matrix.coefficient size).toNat
    let dots := matrix.width * side
    if 65535 < dots then
      matrix.scale size = .error (.image (.symbolTooLarge size))
    else
      ∃ image, matrix.scale size = .ok image ∧ image.rows = dots ∧
        image.bytesPerRow = (dots + 7) / 8 ∧
        (∀ x y, image.isBlack x y = true ↔
          x < dots ∧ y < dots ∧ matrix.isDark (x / side) (y / side) = true) ∧
        (∀ x y, image.isBlack x y = true ↔ ∃ column row,
          matrix.isDark column row = true ∧ (x, y) ∈ block side column row) ∧
        (∀ column row, (block side column row).card = side * side) ∧
        (Pairwise fun place other : Nat × Nat =>
          Disjoint (block side place.1 place.2) (block side other.1 other.2)) ∧
        ∀ x y, dots ≤ x → image.isBlack x y = false := by
  intro side dots
  have side_pos : 0 < side := by omega
  split
  · next tooLarge =>
    have drawn : ¬ (matrix.width = 0 ∨ matrix.coefficient size < 1) := by omega
    rw [scale, if_neg drawn, if_pos tooLarge]
  · next fits =>
    obtain ⟨image, made, rows, bytesPerRow, pixels⟩ :=
      matrix.exists_scale modules side_pos (Int.toNat_of_nonneg (by omega)).symm (by omega)
    refine ⟨image, made, rows, bytesPerRow, pixels, ?_, card_block side, disjoint_block side_pos,
      ?_⟩
    · intro x y
      rw [pixels]
      simp only [mem_block_iff side_pos]
      constructor
      · rintro ⟨-, -, dark⟩
        exact ⟨x / side, y / side, dark, rfl, rfl⟩
      · rintro ⟨_, _, dark, rfl, rfl⟩
        obtain ⟨right, low⟩ := lt_width_of_isDark dark
        exact ⟨(Nat.div_lt_iff_lt_mul side_pos).mp right, (Nat.div_lt_iff_lt_mul side_pos).mp low,
          dark⟩
    · intro x y behind
      rw [Bool.eq_false_iff, ne_eq, pixels]
      omega

/-- Three by three modules, the corners and the centre dark. -/
def quincunx : Matrix :=
  ⟨3, #[true, false, true, false, true, false, true, false, true], by decide⟩

/-- Eight dots for three modules are three dots for each, so that blocks straddle the end of the
first byte of a row. -/
theorem scale_draws_blocks_quincunx :
    1 ≤ quincunx.width ∧ quincunx.coefficient 8 = 3 ∧
      ∃ image, quincunx.scale 8 = .ok image ∧ image.rows = 9 ∧ image.bytesPerRow = 2 ∧
        image.isBlack 8 2 = true ∧ image.isBlack 8 3 = false ∧ image.isBlack 9 2 = false := by
  have side : quincunx.coefficient 8 = 3 := by decide +kernel
  have drawn := scale_draws_blocks quincunx 8 (by decide) (by rw [side]; decide)
  simp only [side] at drawn
  rw [if_neg (by decide)] at drawn
  obtain ⟨image, made, rows, bytesPerRow, pixels, -⟩ := drawn
  refine ⟨by decide, side, image, made, rows, bytesPerRow, ?_, ?_, ?_⟩
  · rw [pixels]
    decide
  · rw [Bool.eq_false_iff, ne_eq, pixels]
    decide
  · rw [Bool.eq_false_iff, ne_eq, pixels]
    decide

end Receipt.Matrix
