import Mathlib.Logic.Function.Iterate
import Receipt.Picture.Shading
import Receipt.Proofs.Number.Order
import Receipt.Proofs.Raster.Rows

/-!
# The pattern of a gradient

The coefficient of the pattern at a dot has a closed form: it starts a row at twice the row's number
modulo eight, and moves on by five a dot modulo sixteen.  The comparison of a sum of channels with
its level is made in double precision, yet it is exact, also where both sides are equal: rounding
steps over no natural number.
-/

set_option autoImplicit false

namespace Receipt

open Number (Binary Format)
open Number.Binary (AtMost)

/-- White, with all its channels full. -/
def Color.white : Color :=
  ⟨255, 255, 255⟩

/-- Whether a colour is no lighter than another one in any channel. -/
def Color.IsDarker (dark light : Color) : Prop :=
  dark.red ≤ light.red ∧ dark.green ≤ light.green ∧ dark.blue ≤ light.blue

/-- The parts of a color add up to at most three times 255. -/
theorem Color.sum_le (color : Color) : color.sum ≤ 765 := by
  have red := color.red.toNat_lt
  have green := color.green.toNat_lt
  have blue := color.blue.toNat_lt
  unfold sum
  omega

namespace Shading

/-! ## Levels in double precision -/

/-- The step of a level is the double nearest to its fraction. -/
theorem levelStep_eq : levelStep = .finite false 4533228572287407 (-49) := by
  decide +kernel

/-- Higher levels have sums that are not smaller. -/
theorem levelSum_atMost {level higher : Nat} (above : level ≤ higher) :
    AtMost (levelSum level) (levelSum higher) := by
  have precise : 0 < Format.double.precision := by decide
  unfold levelSum
  rw [levelStep_eq]
  exact Binary.mul_atMost precise (by decide) _ (Binary.ofNat_atMost precise above)

/-- The smallest natural number that is not below a level. -/
def ceiling (level : Nat) : Nat :=
  (153 * level + 18) / 19

/-- No natural number changes sides when the sum of a level is rounded. -/
theorem ceiling_tight : ∀ level ≤ 96,
    Binary.lt (Binary.ofNat .double (ceiling level)) (levelSum level) = false ∧
      (ceiling level = 0 ∨
        Binary.lt (Binary.ofNat .double (ceiling level - 1)) (levelSum level) = true) := by
  decide +kernel

/-- A number of at most the sum of white is below the rounded sum of a level exactly if it is below
the sum itself. -/
theorem lt_levelSum_iff {n : Nat} (bounded : n ≤ 765) (level : Nat) :
    Binary.lt (Binary.ofNat .double n) (levelSum level) = true ↔ 19 * n < 153 * level := by
  have precise : 0 < Format.double.precision := by decide
  have numbers {m k : Nat} (below : m ≤ k) := Binary.ofNat_atMost precise below
  have level_number := (levelSum_atMost (le_refl level)).ne_nan.1
  -- Level 96 is above white, and so are all levels behind it.
  obtain ⟨least, least_eq⟩ : ∃ least, least = min level 96 := ⟨_, rfl⟩
  obtain ⟨not_below, below⟩ := ceiling_tight least (by omega)
  constructor
  · intro inside
    by_contra outside
    have same : least = level := by omega
    subst same
    have first := Binary.atMost_of_lt_eq_false (numbers (le_refl _)).ne_nan.1 level_number not_below
    have reached : ceiling least ≤ n := by
      unfold ceiling
      omega
    rw [(first.trans (numbers reached)).lt_eq_false] at inside
    cases inside
  · intro inside
    by_contra outside
    have positive : ceiling least ≠ 0 := by
      unfold ceiling
      omega
    have reached : n ≤ ceiling least - 1 := by
      unfold ceiling
      omega
    have first := Binary.atMost_of_lt_eq_false (numbers (le_refl n)).ne_nan.1 level_number
      (Bool.eq_false_iff.mpr outside)
    have second := (levelSum_atMost (show least ≤ level by omega)).trans
      (first.trans (numbers reached))
    rw [second.lt_eq_false] at below
    simp [positive] at below

/-- A colour is black by gradient exactly if its sum is below that of its level. -/
theorem inks_iff (color : Color) (coefficient y : Nat) :
    inks color coefficient y = true ↔ 19 * color.sum < 153 * level coefficient y :=
  lt_levelSum_iff color.sum_le _

/-! ## The walk of the coefficient -/

/-- A coefficient of a row advances by five for each dot, modulo 16. -/
theorem iterate_nextInRow {coefficient : Nat} (low : coefficient < 16) (x : Nat) :
    nextInRow^[x] coefficient = (coefficient + 5 * x) % 16 := by
  induction x with
  | zero => exact (Nat.mod_eq_of_lt low).symm
  | succ x ih =>
      rw [Function.iterate_succ_apply', ih, nextInRow]
      split <;> omega

/-- The coefficient at the start of a row advances by two for each row, modulo 16. -/
theorem iterate_nextRow (y : Nat) : nextRow^[y] 0 = 2 * (y % 8) := by
  induction y with
  | zero => rfl
  | succ y ih =>
      rw [Function.iterate_succ_apply', ih, nextRow]
      split <;> omega

/-- The coefficient of the dot in column `x` of row `y`. -/
theorem coefficient_eq (x y : Nat) :
    nextInRow^[x] (nextRow^[y] 0) = (2 * (y % 8) + 5 * x) % 16 := by
  rw [iterate_nextRow, iterate_nextInRow (by omega)]

/-! ## The dots of rows -/

/-- Whether a colour is black where the pattern has a coefficient. -/
def isBlack (shading : Shading) (color : Color) (coefficient y : Nat) : Bool :=
  match shading with
  | threshold => isDark color
  | gradient => inks color coefficient y

/-- One step along a row: the coefficient moves on behind the dot. -/
def walk (shading : Shading) (y : Nat) (state : Nat × List Bool) (color : Color) :
    Nat × List Bool :=
  (nextInRow state.1, shading.isBlack color state.1 y :: state.2)

/-- The dots of a row are gathered last one first. -/
theorem rowDots_eq_foldl (shading : Shading) (y coefficient : Nat) (colors : List Color) :
    shading.rowDots y coefficient colors =
      (colors.foldl (shading.walk y) (coefficient, [])).2.reverse :=
  rfl

/-- Dots that were done before stay behind those of a walk. -/
theorem foldl_walk_snd (shading : Shading) (y coefficient : Nat) (colors : List Color)
    (done : List Bool) :
    (colors.foldl (shading.walk y) (coefficient, done)).2 =
      (colors.foldl (shading.walk y) (coefficient, [])).2 ++ done := by
  induction colors generalizing coefficient done with
  | nil => rfl
  | cons color rest ih =>
      rw [List.foldl_cons, List.foldl_cons, walk, walk, ih, ih _ [_], List.append_assoc]
      rfl

/-- The first dot is shaded with the coefficient at the start, and the others go on from the next
one. -/
theorem rowDots_cons (shading : Shading) (y coefficient : Nat) (color : Color)
    (rest : List Color) :
    shading.rowDots y coefficient (color :: rest) =
      shading.isBlack color coefficient y :: shading.rowDots y (nextInRow coefficient) rest := by
  rw [rowDots_eq_foldl, rowDots_eq_foldl, List.foldl_cons, walk, foldl_walk_snd, List.reverse_append]
  rfl

/-- The dots of a row are those of its colours where the walk of the coefficient meets them. -/
theorem getElem?_rowDots (shading : Shading) (y coefficient : Nat) (colors : List Color) (x : Nat) :
    (shading.rowDots y coefficient colors)[x]? =
      colors[x]?.map (fun color => shading.isBlack color (nextInRow^[x] coefficient) y) := by
  induction colors generalizing coefficient x with
  | nil => rfl
  | cons color rest ih =>
      rw [rowDots_cons]
      cases x with
      | zero => rfl
      | succ x =>
          rw [List.getElem?_cons_succ, List.getElem?_cons_succ, ih, Function.iterate_succ_apply]

/-- Each color of a row makes one dot. -/
theorem length_rowDots (shading : Shading) (y coefficient : Nat) (colors : List Color) :
    (shading.rowDots y coefficient colors).length = colors.length := by
  induction colors generalizing coefficient with
  | nil => rfl
  | cons color rest ih => rw [rowDots_cons, List.length_cons, List.length_cons, ih]

/-- A packed row of a picture whose pattern starts at a coefficient. -/
def packedRow (shading : Shading) (picture : Picture) (y coefficient : Nat) : List UInt8 :=
  Dots.packRow (shading.rowDots y coefficient
    ((List.range picture.width).map (fun x => picture.colorAt x y))).toArray

/-- The first row is packed with the coefficient at the start, and the others go on from the next
one. -/
theorem packedRows_succ (shading : Shading) (picture : Picture) (y start count : Nat) :
    shading.packedRows picture y start (count + 1) =
      shading.packedRow picture y start ::
        shading.packedRows picture (y + 1) (nextRow start) count :=
  rfl

/-- The rows of a picture are packed one after the other, each from where the walk down the rows has
come to. -/
theorem packedRows_eq_map (shading : Shading) (picture : Picture) (y start count : Nat) :
    shading.packedRows picture y start count =
      (List.range count).map (fun i => shading.packedRow picture (y + i) (nextRow^[i] start)) := by
  induction count generalizing y start with
  | zero => rfl
  | succ count ih =>
      have rest : (List.range count).map (fun i =>
            shading.packedRow picture (y + 1 + i) (nextRow^[i] (nextRow start))) =
          (List.range count).map (fun i =>
            shading.packedRow picture (y + (i + 1)) (nextRow^[i + 1] start)) := by
        apply List.map_congr_left
        intro i _
        rw [Function.iterate_succ_apply, Nat.add_assoc, Nat.add_comm 1]
      rw [packedRows_succ, ih, rest, List.range_succ_eq_map, List.map_cons, List.map_map,
        Nat.add_zero, Function.iterate_zero_apply]
      rfl

/-- A dot of a packed row is that of its colour where the walk along the row meets it. -/
theorem inRow_packedRow (shading : Shading) (picture : Picture) (y coefficient x : Nat) :
    Dots.inRow (shading.packedRow picture y coefficient) x =
      (decide (x < picture.width) &&
        shading.isBlack (picture.colorAt x y) (nextInRow^[x] coefficient) y) := by
  rw [packedRow, Dots.inRow_packRow, Array.getD_eq_getD_getElem?, List.getElem?_toArray,
    getElem?_rowDots]
  by_cases inside : x < picture.width
  · simp [inside]
  · simp [inside]

/-- The level of the pattern at a dot. -/
def patternLevel (x y : Nat) : Nat :=
  6 * ((2 * (y % 8) + 5 * x) % 16) + y % 6

/-- Whether a colour is black at a dot, by numbers alone. -/
def Blackens (shading : Shading) (color : Color) (x y : Nat) : Prop :=
  match shading with
  | threshold => color.least < 160
  | gradient => 19 * color.sum < 153 * patternLevel x y

/-- A colour that is no lighter in any channel is black where the other one is. -/
theorem Blackens.of_isDarker {shading : Shading} {dark light : Color} {x y : Nat}
    (darker : dark.IsDarker light) (black : shading.Blackens light x y) :
    shading.Blackens dark x y := by
  obtain ⟨red, green, blue⟩ := darker
  rw [UInt8.le_iff_toNat_le] at red green blue
  cases shading with
  | threshold =>
      simp only [Blackens, Color.least] at black ⊢
      omega
  | gradient =>
      simp only [Blackens, Color.sum] at black ⊢
      omega

/-- White is never black. -/
theorem not_blackens_white (shading : Shading) (x y : Nat) : ¬ shading.Blackens .white x y := by
  cases shading with
  | threshold => exact (by decide : ¬ Color.white.least < 160)
  | gradient =>
      have sum_eq : Color.white.sum = 765 := rfl
      simp only [Blackens, sum_eq, patternLevel]
      omega

/-- A color is shaded black at a place exactly if the pattern is darker there. -/
theorem isBlack_iff (shading : Shading) (color : Color) (x y : Nat) :
    shading.isBlack color (nextInRow^[x] (nextRow^[y] 0)) y = true ↔ shading.Blackens color x y := by
  cases shading with
  | threshold => exact decide_eq_true_iff
  | gradient =>
      have level_eq : level ((2 * (y % 8) + 5 * x) % 16) y = patternLevel x y :=
        Number.unsigned64_of_lt (by omega)
      rw [isBlack, coefficient_eq, inks_iff, level_eq, Blackens]

end Shading

namespace Picture

open Shading (nextInRow nextRow)

/-- A picture whose sides fit an envelope becomes a raster with a dot for each of its colours. -/
theorem exists_toRaster (picture : Picture) (shading : Shading)
    (narrow : (picture.width + 7) / 8 ≤ 65535) (low : picture.height ≤ 65535) :
    ∃ image, picture.toRaster shading = .ok image ∧
      image.bytesPerRow = (picture.width + 7) / 8 ∧ image.rows = picture.height ∧
      ∀ x y, image.isBlack x y = true ↔
        x < picture.width ∧ y < picture.height ∧ shading.Blackens (picture.colorAt x y) x y := by
  have rows_eq : shading.packedRows picture 0 0 picture.height =
      (List.range picture.height).map (fun y => shading.packedRow picture y (nextRow^[y] 0)) := by
    simpa only [Nat.zero_add] using shading.packedRows_eq_map picture 0 0 picture.height
  have sized : ∀ y < picture.height,
      (shading.packedRow picture y (nextRow^[y] 0)).length = (picture.width + 7) / 8 := by
    intro y _
    rw [Shading.packedRow, Dots.length_packRow, List.size_toArray, Shading.length_rowDots,
      List.length_map, List.length_range]
  obtain ⟨image, made, row_length, row_count, dots⟩ :=
    Raster.exists_ofRows_range narrow low sized
  rw [← rows_eq] at made
  refine ⟨image, made, row_length, row_count, fun x y => ?_⟩
  rw [dots, Shading.inRow_packedRow, ← shading.isBlack_iff]
  simp only [Bool.and_eq_true, decide_eq_true_eq]
  exact and_left_comm

/-- A picture whose sides fit an envelope is shaded exactly.  Its raster has as many rows and, in
every row, the bytes that its dots take.  A dot is black if its colour is: by threshold if a channel
is below 160, by gradient if the sum of the channels is below its level, on the scale on which level
95 is 765.  The coefficient of the pattern stays below sixteen.  White never prints, nor does what is
behind a row, and colours that become darker keep every black dot black. -/
theorem shaded_by_pattern (picture : Picture) (shading : Shading)
    (narrow : (picture.width + 7) / 8 ≤ 65535) (low : picture.height ≤ 65535) :
    ∃ image, picture.toRaster shading = .ok image ∧
      image.bytesPerRow = (picture.width + 7) / 8 ∧ image.rows = picture.height ∧
      (∀ x y, image.isBlack x y = true ↔ x < picture.width ∧ y < picture.height ∧
        match shading with
        | .threshold => (picture.colorAt x y).least < 160
        | .gradient => 19 * (picture.colorAt x y).sum <
            153 * (6 * ((2 * (y % 8) + 5 * x) % 16) + y % 6)) ∧
      (∀ x y, nextInRow^[x] (nextRow^[y] 0) = (2 * (y % 8) + 5 * x) % 16 ∧
        nextInRow^[x] (nextRow^[y] 0) ≤ 15) ∧
      (∀ x y, picture.colorAt x y = .white → image.isBlack x y = false) ∧
      (∀ x y, picture.width ≤ x → image.isBlack x y = false) ∧
      ∀ darker : Picture, darker.width = picture.width → darker.height = picture.height →
        (∀ x < picture.width, ∀ y < picture.height,
          (darker.colorAt x y).IsDarker (picture.colorAt x y)) →
        ∃ darkened, darker.toRaster shading = .ok darkened ∧
          ∀ x y, image.isBlack x y = true → darkened.isBlack x y = true := by
  obtain ⟨image, made, row_length, rows, dots⟩ := picture.exists_toRaster shading narrow low
  refine ⟨image, made, row_length, rows, ?_, ?_, ?_, ?_, ?_⟩
  · intro x y
    rw [dots]
    cases shading <;> rfl
  · intro x y
    have coefficient_eq := Shading.coefficient_eq x y
    exact ⟨coefficient_eq, by omega⟩
  · intro x y white
    rw [Bool.eq_false_iff, ne_eq, dots, white]
    exact fun black => shading.not_blackens_white x y black.2.2
  · intro x y behind
    rw [Bool.eq_false_iff, ne_eq, dots]
    omega
  · intro darker width_eq height_eq channels
    obtain ⟨darkened, made', -, -, dots'⟩ :=
      darker.exists_toRaster shading (by omega) (by omega)
    refine ⟨darkened, made', fun x y black => ?_⟩
    rw [dots] at black
    rw [dots', width_eq, height_eq]
    exact ⟨black.1, black.2.1, black.2.2.of_isDarker (channels x black.1 y black.2.1)⟩

/-- Two rows of a grey whose channels sum up to 153, which is the sum of level 19. -/
def evenGrey : Picture :=
  .ofFn 14 2 (fun _ _ => ⟨51, 51, 51⟩)

/-- At the last dot of that grey, which has level 19, sum and level are equal, so that it stays
white; the dot in front of it has level 85. -/
theorem shaded_by_pattern_evenGrey :
    (evenGrey.width + 7) / 8 ≤ 65535 ∧ evenGrey.height ≤ 65535 ∧
      ∃ image, evenGrey.toRaster .gradient = .ok image ∧ image.bytesPerRow = 2 ∧ image.rows = 2 ∧
        image.isBlack 12 1 = true ∧ image.isBlack 13 1 = false := by
  obtain ⟨image, made, row_length, rows, dots, -⟩ :=
    shaded_by_pattern evenGrey .gradient (by decide) (by decide)
  refine ⟨by decide, by decide, image, made, row_length, rows, ?_, ?_⟩
  · rw [dots]
    decide
  · rw [Bool.eq_false_iff, ne_eq, dots]
    decide

end Picture

end Receipt
