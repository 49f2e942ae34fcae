import Mathlib.Data.List.Forall2
import Receipt.Proofs.Markup.Grid

/-!
# Contents that fit their shares

A character of the remainder is given to the right padding of a column, after the free characters
were split up.  On the left and at the centre, content that needs this character to fit still finds
it on the side where it lacks one.  On the right it lacks one on the left side, which is recorded as
an overflow, while the character itself becomes a space behind the content.  Every other content
that fits its share leaves no overflow, and its column is as wide as the share.
-/

set_option autoImplicit false

namespace Receipt.Markup

/-- The characters that each of `count` columns gets, the first `owed` ones one more. -/
def shares (share owed count : Nat) : List Nat :=
  (List.range count).map (fun k => share + if k < owed then 1 else 0)

/-- What is owed behind a first column is owed to the columns behind it. -/
theorem shares_succ (share owed count : Nat) :
    shares share owed (count + 1) =
      (share + min owed 1) :: shares share (owed - 1) count := by
  unfold shares
  rw [List.range_succ_eq_map, List.map_cons, List.map_map]
  refine congrArg₂ List.cons ?_ (List.map_congr_left ?_)
  · split <;> omega
  · intro k _
    simp only [Function.comp_apply]
    split <;> split <;> omega

/-- All that is owed is given out if there are as many columns. -/
theorem sum_shares (share owed count : Nat) :
    (shares share owed count).sum = count * share + min owed count := by
  induction count generalizing owed with
  | zero => simp [shares]
  | succ count ih =>
      rw [shares_succ, List.sum_cons, ih, Nat.succ_mul]
      omega

namespace Padding

variable {alignment : Alignment} {share content owed : Nat}

/-- Content that fits its share leaves an overflow exactly if it stands on the right and needs the
character of the remainder. -/
theorem overflow_eq_zero_iff (given : share + owed < Number.signedLimit)
    (fits : content ≤ share + min owed 1) :
    (distribute alignment (Number.signed64 share) (Number.signed64 content)
        ⟨owed, 0⟩).2.overflow = 0 ↔
      (alignment = .right → content ≠ share + 1) := by
  have on_time : (⟨owed, 0⟩ : Carry).overflow ≤ 0 := Int.le_refl 0
  rw [distribute_eq (by dsimp only; omega) (by dsimp only; omega) on_time (by dsimp only; omega)]
  simp only [Int.lt_irrefl, if_false]
  cases alignment with
  | left =>
      simp only [freeLeft, reduceCtorEq, false_implies, iff_true]
      omega
  | center =>
      -- The half of a single missing character is rounded to none.
      have sign : Int.sign 2 = 1 := rfl
      simp only [freeLeft, Int.tdiv_eq_ediv, reduceCtorEq, false_implies, iff_true]
      split <;> omega
  | right =>
      simp only [freeLeft, true_implies]
      omega

end Padding

/-- A column of text that fits its share, with what it leaves: an overflow exactly if it stands on
the right and needs the character of the remainder; without an overflow it is as wide as its
share. -/
theorem Column.fit_laidOut (profile : Profile) {share owed : Nat} (alignment : Alignment)
    (text : List Char) (state : Formatting) (given : share + owed < Number.signedLimit)
    (fits : contentWidth profile.charset state text ≤ share + min owed 1) :
    let read := Column.laidOut profile share alignment text ⟨owed, 0⟩ state
    (read.carry.overflow = 0 ↔
        (alignment = .right → contentWidth profile.charset state text ≠ share + 1)) ∧
      (read.carry.overflow = 0 →
        read.carry = ⟨(owed - 1 : Nat), 0⟩ ∧ read.column.width = share + min owed 1) := by
  intro read
  have owed_given : 0 ≤ (⟨owed, 0⟩ : Carry).owed := Int.natCast_nonneg owed
  have room : share + (⟨owed, 0⟩ : Carry).owed < Number.signedLimit := by
    dsimp only
    omega
  have on_time : (⟨owed, 0⟩ : Carry).overflow ≤ 0 := Int.le_refl 0
  obtain ⟨width, owed_eq, -, -⟩ := Column.balance_laidOut profile alignment text state owed_given
    room on_time (by dsimp only; omega)
  refine ⟨Padding.overflow_eq_zero_iff given fits, ?_⟩
  intro none
  have filled : (read.column.width : Int) =
      share + min (owed : Int) 1 + 0 - read.carry.overflow := width
  have left : read.carry.owed = owed - min (owed : Int) 1 := owed_eq
  have carry_eq : read.carry = ⟨read.carry.owed, read.carry.overflow⟩ := rfl
  rw [carry_eq, left, none]
  rw [none] at filled
  exact ⟨congrArg (Carry.mk · 0) (by omega), by omega⟩

namespace Line

/-- No column that is read from segments leaves an overflow. -/
def StaysWithin (profile : Profile) (source : MatrixSource) (sole : Bool) (share : Nat)
    (segments : List (List Char)) (carry : Carry) (state : Formatting) : Prop :=
  ∀ k, ∃ columns after between,
    parseColumns profile source sole share (segments.take k) carry state =
      .ok (columns, after, between) ∧ after.overflow = 0

section

variable {profile : Profile} {source : MatrixSource} {sole : Bool} {share : Nat}
  {segments : List (List Char)} {segment : List Char} {carry after : Carry}
  {state next : Formatting} {columns : List Column} {read : ColumnRead}

/-- No overflow stands in front of columns that all stay within their shares. -/
theorem StaysWithin.overflow_eq_zero
    (within : StaysWithin profile source sole share segments carry state) :
    carry.overflow = 0 := by
  obtain ⟨columns, after, between, parsed, none⟩ := within 0
  rw [List.take_zero] at parsed
  rw [← (parseColumns_nil_eq_ok.mp parsed).2.1]
  exact none

/-- No column overflows if the first one does not and no other one does. -/
theorem staysWithin_cons (first : Column.parse profile source sole share segment carry state =
      .ok read) (none : carry.overflow = 0) :
    StaysWithin profile source sole share (segment :: segments) carry state ↔
      StaysWithin profile source sole share segments read.carry read.state := by
  constructor
  · intro within k
    obtain ⟨columns, after, between, parsed, none⟩ := within (k + 1)
    rw [List.take_succ_cons] at parsed
    obtain ⟨again, others, same, later, -⟩ := parseColumns_cons_eq_ok.mp parsed
    rw [first] at same
    cases same
    exact ⟨others, after, between, later, none⟩
  · intro within k
    cases k with
    | zero => exact ⟨[], carry, state, rfl, none⟩
    | succ k =>
        obtain ⟨others, after, between, later, none⟩ := within k
        refine ⟨read.column :: others, after, between, ?_, none⟩
        rw [List.take_succ_cons, parseColumns_cons_eq_ok]
        exact ⟨read, others, first, later, rfl⟩

/-- Columns of text whose contents fit their shares leave no overflow exactly if none of them
stands on the right and needs the character of the remainder.  Then all of them are as wide as
their shares. -/
theorem fit_parseColumns {owed : Nat}
    (parsed : parseColumns profile source sole share segments ⟨owed, 0⟩ state =
      .ok (columns, after, next))
    (text : ∀ column ∈ columns, ∀ element ∈ column.elements, element.isText = true)
    (given : share + owed < Number.signedLimit)
    (fits : List.Forall₂ (· ≤ ·) (contentWidths profile.charset state segments)
      (shares share owed segments.length)) :
    (StaysWithin profile source sole share segments ⟨owed, 0⟩ state ↔
      ∀ place ∈ columns.zip (contentWidths profile.charset state segments),
        place.1.alignment = .right → place.2 ≠ share + 1) ∧
    (StaysWithin profile source sole share segments ⟨owed, 0⟩ state →
      columns.map Column.width = shares share owed segments.length) := by
  induction segments generalizing columns owed state with
  | nil =>
      obtain ⟨rfl, -, -⟩ := parseColumns_nil_eq_ok.mp parsed
      have within : StaysWithin profile source sole share [] ⟨owed, 0⟩ state := fun k =>
        ⟨[], ⟨owed, 0⟩, state, by rw [List.take_nil]; rfl, rfl⟩
      exact ⟨iff_of_true within (List.forall_mem_nil _), fun _ => rfl⟩
  | cons segment rest ih =>
      obtain ⟨read, others, first, later, rfl⟩ := parseColumns_cons_eq_ok.mp parsed
      rw [List.forall_mem_cons] at text
      have laid := Column.eq_laidOut_of_isText first text.1
      rw [contentWidths, List.length_cons, shares_succ, List.forall₂_cons] at fits
      obtain ⟨meets, behind⟩ := Column.fit_laidOut profile (splitMarker segment).1
        (splitMarker segment).2 state given fits.1
      rw [← laid] at meets behind
      have state_eq : read.state = (scan state (splitMarker segment).2).2 := by
        rw [laid, Column.laidOut]
      have alignment_eq : read.column.alignment = (splitMarker segment).1 := by
        rw [laid, Column.laidOut]
      rw [staysWithin_cons first rfl, contentWidths, List.zip_cons_cons, List.forall_mem_cons,
        alignment_eq, ← meets, ← state_eq, List.map_cons, List.length_cons, shares_succ]
      by_cases none : read.carry.overflow = 0
      · obtain ⟨carry_eq, width⟩ := behind none
        rw [carry_eq] at later ⊢
        rw [← state_eq] at fits
        obtain ⟨exact_fit, widths⟩ := ih later text.2 (by omega) fits.2
        refine ⟨?_, fun within => ?_⟩
        · simpa using exact_fit
        · rw [width, widths within]
      · -- An overflow of the first column is seen on both sides.
        refine ⟨iff_of_false (fun within => none within.overflow_eq_zero) (fun all => none all.1),
          fun within => absurd within.overflow_eq_zero none⟩

end

/-- Contents that fit.  Let the content of every column of a line of text be no wider than its
share, which is the same for all columns but for one more character of the first ones.  Then no
column leaves an overflow, every column is as wide as its share and the line as wide as the paper,
if and only if no column that stands on the right needs its one more character. -/
theorem fits_iff {profile : Profile} {source : MatrixSource} {text : List Char}
    {state next : Formatting} {line : Line}
    (parsed : Line.parse profile source text state = .ok (line, next)) (isText : line.IsText)
    (narrow : profile.charsPerLine < Number.signedLimit)
    (fits : List.Forall₂ (· ≤ ·) (contentWidths profile.charset state (splitSegments text))
      (shares (profile.charsPerLine / line.columns.length)
        (profile.charsPerLine % line.columns.length) line.columns.length)) :
    let chars := profile.charsPerLine
    let count := line.columns.length
    let share := chars / count
    let rest := chars % count
    (StaysWithin profile source (count == 1) share (splitSegments text) ⟨rest, 0⟩ state ∧
        line.carry.overflow = 0 ∧ line.columns.map Column.width = shares share rest count ∧
        line.width = chars) ↔
      ∀ place ∈ line.columns.zip (contentWidths profile.charset state (splitSegments text)),
        place.1.alignment = .right → place.2 ≠ share + 1 := by
  intro chars count share rest
  obtain ⟨count_pos, count_eq, -, columns⟩ := columns_of_parse parsed narrow
  have given : share + rest < Number.signedLimit :=
    Nat.lt_of_le_of_lt (div_add_mod_le chars count count_pos) narrow
  change List.Forall₂ _ _ (shares share rest count) at fits
  rw [show count = (splitSegments text).length from count_eq] at fits
  obtain ⟨exact_fit, widths⟩ := fit_parseColumns columns (isText_iff.mp isText) given fits
  refine ⟨fun holds => exact_fit.mp holds.1, fun right_fits => ?_⟩
  have within := exact_fit.mpr right_fits
  have filled : line.columns.map Column.width = shares share rest count := by
    rw [widths within, ← count_eq]
  refine ⟨within, ?_, filled, ?_⟩
  · obtain ⟨others, after, between, all, none⟩ := within (splitSegments text).length
    rw [List.take_length, columns] at all
    cases all
    exact none
  · have rest_lt : rest < count := Nat.mod_lt chars count_pos
    have whole : count * share + rest = chars := Nat.div_add_mod chars count
    rw [width_eq_sum, filled, sum_shares, Nat.min_eq_left (Nat.le_of_lt rest_lt), whole]

/-- A line whose first two columns need their one more character, none of them on the right. -/
def snugText : List Char :=
  "[L]abcdefghijk[C]lmnopqrstuv[R]wxyz".toList

/-- That line on paper of 32 characters. -/
def snug : Line :=
  let spaces : TextRun := ⟨List.replicate 6 ' ', .plain, 6⟩
  ⟨[⟨.left, [.text ⟨"abcdefghijk".toList, .plain, 11⟩]⟩,
    ⟨.center, [.text ⟨"lmnopqrstuv".toList, .plain, 11⟩]⟩,
    ⟨.right, [.text spaces, .text ⟨"wxyz".toList, .plain, 4⟩]⟩], 10, ⟨0, 0⟩⟩

/-- The line fills the paper without an overflow. -/
theorem fits_iff_snug :
    StaysWithin .mm58 Qr.encode false 10 (splitSegments snugText) ⟨2, 0⟩ .initial ∧
      snug.carry.overflow = 0 ∧ snug.columns.map Column.width = [11, 11, 10] ∧
      snug.width = 32 := by
  have parsed : Line.parse .mm58 Qr.encode snugText .initial = .ok (snug, .initial) := by
    decide +kernel
  have contents : contentWidths Profile.mm58.charset .initial (splitSegments snugText) =
      [11, 11, 4] := by
    decide +kernel
  have isText : snug.IsText := by decide
  refine (fits_iff parsed isText (by decide) ?_).mpr ?_
  · rw [contents]
    decide
  · rw [contents]
    decide

/-- A line whose first column stands on the right and needs its one more character. -/
def tightText : List Char :=
  "[R]abcdefghijk[L]lmnopqrstuv[R]wxyz012345".toList

/-- That line on paper of 32 characters. -/
def tight : Line :=
  let space : Element := .text ⟨[' '], .plain, 1⟩
  ⟨[⟨.right, [.text ⟨"abcdefghijk".toList, .plain, 11⟩, space]⟩,
    ⟨.left, [space, .text ⟨"lmnopqrstuv".toList, .plain, 11⟩]⟩,
    ⟨.right, [space, .text ⟨"wxyz012345".toList, .plain, 10⟩]⟩], 10, ⟨0, -3⟩⟩

/-- The contents of that line fill their shares and no more, and yet every column becomes one
character too wide. -/
theorem fits_but_overflows :
    Line.parse .mm58 Qr.encode tightText .initial = .ok (tight, .initial) ∧ tight.IsText ∧
      List.Forall₂ (· ≤ ·)
        (contentWidths Profile.mm58.charset .initial (splitSegments tightText))
        (shares (32 / 3) (32 % 3) 3) ∧
      shares (32 / 3) (32 % 3) 3 = [11, 11, 10] ∧
      tight.columns.map Column.width = [12, 12, 11] ∧ tight.carry.overflow = -3 ∧
      tight.width = 35 := by
  have contents : contentWidths Profile.mm58.charset .initial (splitSegments tightText) =
      [11, 11, 10] := by
    decide +kernel
  refine ⟨by decide +kernel, by decide, ?_, by decide, by decide, by decide, by decide⟩
  rw [contents]
  decide

end Line

end Receipt.Markup
