import Receipt.Proofs.Raster.Dots
import Receipt.Raster

/-!
# Rasters by their rows

A raster has the dots of its rows.  In a packed row, eight dots to a byte, the dots behind the last
one are white, and white bytes in front of it move its dots to the right.  A raster that is built
from rows of the announced length has these as its rows.
-/

set_option autoImplicit false

namespace Receipt

namespace Dots

/-- Whether a dot of a packed row is black; the dots behind the row are white. -/
def inRow (row : List UInt8) (x : Nat) : Bool :=
  test (row.getD (x / 8) 0) (x % 8)

/-- Nothing is set in the byte zero. -/
theorem test_zero (position : Nat) : test 0 position = false := by
  simp [test]

/-- A row without bytes has no dots. -/
theorem inRow_nil (x : Nat) : inRow [] x = false :=
  test_zero (x % 8)

/-- There are no dots behind a row. -/
theorem inRow_of_length_le {row : List UInt8} {x : Nat} (behind : 8 * row.length ≤ x) :
    inRow row x = false := by
  have outside : row.length ≤ x / 8 := by omega
  rw [inRow, List.getD_eq_default _ _ outside]
  exact test_zero (x % 8)

/-- A row of dots takes a byte for every eight of them. -/
theorem length_packRow (dots : Array Bool) : (packRow dots).length = (dots.size + 7) / 8 := by
  simp [packRow]

/-- A packed row has the dots that it was packed from, and white ones behind them. -/
theorem inRow_packRow (dots : Array Bool) (x : Nat) :
    inRow (packRow dots) x = dots.getD x false := by
  by_cases inside : x / 8 < (dots.size + 7) / 8
  · have byte : (packRow dots).getD (x / 8) 0 =
        packByte (fun position => dots.getD (8 * (x / 8) + position) false) := by
      simp [packRow, inside]
    have bit := testBit_packByte (fun position => dots.getD (8 * (x / 8) + position) false)
      (Nat.mod_lt x (by decide : 0 < 8))
    rw [inRow, byte, test_eq_testBit _ (Nat.mod_lt x (by decide)), bit, Nat.div_add_mod]
  · have packed := length_packRow dots
    rw [inRow_of_length_le (by omega), Array.getD_eq_getD_getElem?,
      Array.getElem?_eq_none (by omega), Option.getD_none]

/-- White bytes in front of a row move its dots to the right, eight places for each byte. -/
theorem inRow_replicate_append (count : Nat) (row : List UInt8) (x : Nat) :
    inRow (List.replicate count 0 ++ row) x =
      (decide (8 * count ≤ x) && inRow row (x - 8 * count)) := by
  by_cases behind : 8 * count ≤ x
  · have byte : (x - 8 * count) / 8 = x / 8 - count := by omega
    have position : (x - 8 * count) % 8 = x % 8 := by omega
    have outside : (List.replicate count (0 : UInt8)).length ≤ x / 8 := by
      rw [List.length_replicate]
      omega
    rw [decide_eq_true behind, Bool.true_and, inRow, inRow, byte, position,
      List.getD_append_right _ _ _ _ outside, List.length_replicate]
  · have white : (List.replicate count (0 : UInt8) ++ row).getD (x / 8) 0 = 0 := by
      have inside : x / 8 < (List.replicate count (0 : UInt8)).length := by
        rw [List.length_replicate]
        omega
      rw [List.getD_append _ _ _ _ inside, List.getD_replicate _ (by omega)]
    rw [decide_eq_false behind, Bool.false_and, inRow, white, test_zero]

end Dots

namespace Raster

variable {size : Nat} {rows : List (List UInt8)}

/-- Byte `i` of row `y` stands at place `y * size + i` of rows that were joined. -/
theorem getD_flatten (sized : ∀ row ∈ rows, row.length = size) (y : Nat) {i : Nat}
    (inside : i < size) : rows.flatten.getD (y * size + i) 0 = (rows.getD y []).getD i 0 := by
  induction rows generalizing y with
  | nil => simp
  | cons row rest ih =>
      rw [List.forall_mem_cons] at sized
      cases y with
      | zero =>
          rw [Nat.zero_mul, Nat.zero_add, List.flatten_cons, List.getD_cons_zero,
            List.getD_append _ _ _ _ (by omega)]
      | succ y =>
          have place : (y + 1) * size + i - row.length = y * size + i := by
            rw [Nat.succ_mul, sized.1]
            omega
          have behind : row.length ≤ (y + 1) * size + i := by
            rw [Nat.succ_mul, sized.1]
            omega
          rw [List.flatten_cons, List.getD_append_right _ _ _ _ behind, place, ih sized.2,
            List.getD_cons_succ]

/-- Each row has as many bytes as the image says. -/
theorem length_row (image : Raster) {y : Nat} (low : y < image.rows) :
    (image.row y).length = image.bytesPerRow := by
  have fits : (y + 1) * image.bytesPerRow ≤ image.data.size := by
    rw [image.size_data, Nat.mul_comm image.bytesPerRow]
    exact Nat.mul_le_mul_right _ low
  rw [row, Array.length_toList, Array.size_extract_of_le fits, Nat.succ_mul,
    Nat.add_sub_cancel_left]

/-- A raster has the dots of its rows. -/
theorem isBlack_eq_inRow (image : Raster) (x : Nat) {y : Nat} (low : y < image.rows) :
    image.isBlack x y = Dots.inRow (image.row y) x := by
  have length_eq := image.length_row low
  by_cases inside : x < image.widthPx
  · have within : x / 8 < image.bytesPerRow := by
      unfold widthPx at inside
      omega
    have byte : (image.row y).getD (x / 8) 0 =
        image.data.getD (y * image.bytesPerRow + x / 8) 0 := by
      have cut : (y + 1) * image.bytesPerRow - y * image.bytesPerRow = image.bytesPerRow := by
        rw [Nat.succ_mul, Nat.add_sub_cancel_left]
      simp [row, cut, within]
    rw [isBlack, decide_eq_true inside, decide_eq_true low, Dots.inRow, byte]
    rfl
  · have outside : 8 * (image.row y).length ≤ x := by
      rw [length_eq]
      exact not_lt.mp inside
    rw [isBlack, decide_eq_false inside, Dots.inRow_of_length_le outside]
    rfl

/-- There are no dots below an image. -/
theorem isBlack_of_rows_le (image : Raster) (x : Nat) {y : Nat} (below : image.rows ≤ y) :
    image.isBlack x y = false := by
  simp [isBlack, Nat.not_lt.mpr below]

/-- Rows of one size have that many bytes for each of them. -/
theorem length_flatten_of_sized (sized : ∀ row ∈ rows, row.length = size) :
    rows.flatten.length = size * rows.length := by
  induction rows with
  | nil => simp
  | cons row rest ih =>
      rw [List.forall_mem_cons] at sized
      rw [List.flatten_cons, List.length_append, ih sized.2, sized.1, List.length_cons,
        Nat.mul_succ, Nat.add_comm]

/-- Rows of the announced length that fit an envelope make a raster with their dots. -/
theorem exists_ofRows (narrow : size ≤ 65535) (few : rows.length ≤ 65535)
    (sized : ∀ row ∈ rows, row.length = size) :
    ∃ image, ofRows size rows = .ok image ∧ image.bytesPerRow = size ∧
      image.rows = rows.length ∧ ∀ x y, image.isBlack x y = Dots.inRow (rows.getD y []) x := by
  have joined : (joinRows #[] rows).toList = rows.flatten := by simp
  have count : (joinRows #[] rows).size = size * rows.length := by
    rw [← Array.length_toList, joined, length_flatten_of_sized sized]
  let image : Raster := ⟨size, rows.length, joinRows #[] rows, narrow, few, count⟩
  have made : ofRows size rows = .ok image := by
    rw [ofRows, ofData, dif_pos ⟨narrow, few⟩, dif_pos count]
  refine ⟨image, made, rfl, rfl, fun x y => ?_⟩
  by_cases low : y < rows.length
  · by_cases inside : x < 8 * size
    · have within : x / 8 < size := by omega
      have byte : image.data.getD (y * size + x / 8) 0 = (rows.getD y []).getD (x / 8) 0 := by
        rw [← getD_flatten sized y within, ← joined, List.getD_eq_getElem?_getD,
          Array.getElem?_toList, ← Array.getD_eq_getD_getElem?]
      rw [isBlack, widthPx, decide_eq_true inside, decide_eq_true low, byte]
      rfl
    · have length_eq : (rows.getD y []).length = size := by
        rw [List.getD_eq_getElem _ _ low]
        exact sized _ (List.getElem_mem low)
      rw [isBlack, widthPx, decide_eq_false inside, Dots.inRow_of_length_le (by omega)]
      rfl
  · rw [image.isBlack_of_rows_le x (not_lt.mp low), List.getD_eq_default _ _ (not_lt.mp low),
      Dots.inRow_nil]

/-- Rows that are given by their numbers and fit an envelope make a raster with their dots. -/
theorem exists_ofRows_range {row : Nat → List UInt8} {count : Nat} (narrow : size ≤ 65535)
    (few : count ≤ 65535) (sized : ∀ y < count, (row y).length = size) :
    ∃ image, ofRows size ((List.range count).map row) = .ok image ∧ image.bytesPerRow = size ∧
      image.rows = count ∧
      ∀ x y, image.isBlack x y = (decide (y < count) && Dots.inRow (row y) x) := by
  have length_eq : ((List.range count).map row).length = count := by simp
  have all_sized : ∀ bytes ∈ (List.range count).map row, bytes.length = size := by
    intro bytes mem
    obtain ⟨y, low, rfl⟩ := List.mem_map.mp mem
    exact sized y (List.mem_range.mp low)
  obtain ⟨image, made, row_length, row_count, dots⟩ :=
    exists_ofRows narrow (length_eq.trans_le few) all_sized
  refine ⟨image, made, row_length, row_count.trans length_eq, fun x y => ?_⟩
  rw [dots]
  by_cases low : y < count
  · rw [List.getD_eq_getElem _ _ (by omega), List.getElem_map, List.getElem_range,
      decide_eq_true low, Bool.true_and]
  · rw [List.getD_eq_default _ _ (by omega), Dots.inRow_nil, decide_eq_false low, Bool.false_and]

/-- White bytes in front of every row move the dots of a picture to the right, eight places for each
byte.  Only rows that become too long for an envelope are refused. -/
theorem padLeft_moves (image : Raster) {count : Nat}
    (small : image.bytesPerRow + count < 18446744073709551616) :
    if 0 < count ∧ 65535 < image.bytesPerRow + count then
      image.padLeft count = .error (.image (.tooLarge (image.bytesPerRow + count) image.rows))
    else
      ∃ moved, image.padLeft count = .ok moved ∧ moved.rows = image.rows ∧
        moved.bytesPerRow = image.bytesPerRow + count ∧
        ∀ x y, moved.isBlack x y = (decide (8 * count ≤ x) && image.isBlack (x - 8 * count) y) := by
  have length_eq := Number.unsigned64_of_lt small
  simp only [padLeft, length_eq]
  split
  · next long => rw [if_neg (Nat.ne_of_gt long.1), if_pos long.2]
  · next short =>
    by_cases none : count = 0
    · subst none
      exact ⟨image, if_pos rfl, rfl, rfl, fun x y => by simp⟩
    · have narrow : image.bytesPerRow + count ≤ 65535 := by omega
      rw [if_neg none, if_neg (Nat.not_lt.mpr narrow)]
      have sized : ∀ y < image.rows,
          (List.replicate count 0 ++ image.row y).length = image.bytesPerRow + count := by
        intro y low
        rw [List.length_append, List.length_replicate, image.length_row low, Nat.add_comm]
      obtain ⟨moved, made, row_length, row_count, dots⟩ :=
        exists_ofRows_range narrow image.rows_le sized
      refine ⟨moved, made, row_count, row_length, fun x y => ?_⟩
      rw [dots, Dots.inRow_replicate_append]
      by_cases low : y < image.rows
      · rw [image.isBlack_eq_inRow _ low, decide_eq_true low, Bool.true_and]
      · rw [image.isBlack_of_rows_le _ (not_lt.mp low), decide_eq_false low, Bool.false_and,
          Bool.and_false]

end Raster

end Receipt
