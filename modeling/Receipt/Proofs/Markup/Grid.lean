import Receipt.Proofs.Markup.Content
import Receipt.Proofs.Markup.Line
import Receipt.Qr.Symbol

/-!
# Columns on the grid of a line

The characters of the paper are shared among the columns of a line, the first ones taking one more
of what is left over.  What a column fills beyond its place on this grid is carried on as a negative
number, and the columns behind it make up for it as far as they can.  So no column starts left of
its place, and only what the last column leaves makes a line wider than the paper.  Padding is
computed in words with a sign.  Their turns drop out of the sum of all widths, so that as a word this
is always what the grid says; as a number it is so unless no word holds it.
-/

set_option autoImplicit false

namespace Receipt

/-- The first count that a word with a sign does not hold. -/
def Number.signedLimit : Nat :=
  9223372036854775808

/-- The first count that a word without a sign does not hold. -/
def Number.unsignedLimit : Nat :=
  18446744073709551616

namespace Markup

/-- A column is given one character of the remainder, if one is still owed. -/
theorem Carry.given_eq_min {carry : Carry} (owed : 0 ≤ carry.owed) :
    (if 0 < carry.owed then 1 else 0) = min carry.owed 1 := by
  split <;> omega

namespace Padding

/-- The free characters on the left are a part of all free ones, also when there are too few. -/
theorem freeLeft_between (alignment : Alignment) (free : Int) :
    min free 0 ≤ freeLeft alignment free ∧ freeLeft alignment free ≤ max free 0 := by
  cases alignment with
  | left => simp only [freeLeft]; omega
  | right => simp only [freeLeft]; omega
  | center =>
      have sign : Int.sign 2 = 1 := rfl
      simp only [freeLeft, Int.tdiv_eq_ediv]
      split <;> omega

/-- While all counts fit their words, padding is what the free characters and the alignment say: the
excess of the columns before is taken out of the left side, which keeps one space, and then out of
the right side. -/
theorem distribute_eq {alignment : Alignment} {share content : Nat} {carry : Carry}
    (owed : 0 ≤ carry.owed) (given : share + carry.owed < Number.signedLimit)
    (late : carry.overflow ≤ 0) (held : content + 1 - carry.overflow ≤ Number.signedLimit) :
    distribute alignment (Number.signed64 share) (Number.signed64 content) carry =
      let free : Int := share - content
      let extra := min carry.owed 1
      let before := freeLeft alignment free
      let behind := free - before + extra
      let left := if carry.overflow < 0 then max (before + carry.overflow) 1 else before
      let right :=
        if carry.overflow < 0 then behind + min (before + carry.overflow - 1) 0 else behind
      (⟨left.toNat, right.toNat⟩, ⟨carry.owed - extra, min left 0 + min right 0⟩) := by
  -- Every sum of the computation stays within signed words, so that no step of it wraps.
  unfold Number.signedLimit at given held
  have extra_eq := Carry.given_eq_min owed
  have share_eq : Number.signed64 share = share :=
    Number.signed64_of_range (by omega) (by omega)
  have content_eq : Number.signed64 content = content :=
    Number.signed64_of_range (by omega) (by omega)
  have free_eq : Number.signed64 ((share : Int) - content) = share - content :=
    Number.signed64_of_range (by omega) (by omega)
  have between := freeLeft_between alignment ((share : Int) - content)
  simp only [distribute, extra_eq, share_eq, content_eq, free_eq]
  generalize freeLeft alignment ((share : Int) - content) = before at between ⊢
  have behind_eq : Number.signed64 ((share : Int) - content - before + min carry.owed 1) =
      share - content - before + min carry.owed 1 :=
    Number.signed64_of_range (by omega) (by omega)
  have moved_eq : Number.signed64 (before + carry.overflow) = before + carry.overflow :=
    Number.signed64_of_range (by omega) (by omega)
  simp only [behind_eq, moved_eq]
  by_cases overflowed : carry.overflow < 0
  · simp only [overflowed, if_true]
    rw [Number.signed64_of_range (n := _ - _ - _ + _ + _) (by omega) (by omega),
      Number.signed64_of_range (by omega) (by omega)]
    simp
  · have none : carry.overflow = 0 := by omega
    simp only [none, Int.lt_irrefl, if_false]
    rw [Number.signed64_of_range (by omega) (by omega)]
    simp

/-- A column is as wide as its share with one character of the remainder, less what it takes of the
excess in front of it and with the excess it leaves. -/
theorem distribute_balance (alignment : Alignment) {share content : Nat} {carry after : Carry}
    {padding : Padding} (owed : 0 ≤ carry.owed)
    (given : share + carry.owed < Number.signedLimit) (late : carry.overflow ≤ 0)
    (held : content + 1 - carry.overflow ≤ Number.signedLimit)
    (placed : distribute alignment (Number.signed64 share) (Number.signed64 content) carry =
      (padding, after)) :
    (padding.left + content + padding.right : Int) =
        share + min carry.owed 1 + carry.overflow - after.overflow ∧
      after.owed = carry.owed - min carry.owed 1 ∧ after.overflow ≤ 0 ∧
      carry.overflow - content - 1 ≤ after.overflow := by
  have between := freeLeft_between alignment ((share : Int) - content)
  rw [distribute_eq owed given late held] at placed
  dsimp only at placed
  generalize freeLeft alignment ((share : Int) - content) = before at between placed
  obtain ⟨rfl, rfl⟩ := Prod.mk.inj placed
  refine ⟨?_, rfl, ?_⟩
  all_goals
    by_cases overflowed : carry.overflow < 0
    · simp only [overflowed, if_true, Int.ofNat_toNat]
      omega
    · simp only [overflowed, if_false, Int.ofNat_toNat]
      omega

/-- Whatever the counts are, as a word a column and the overflow it leaves are its share with one
character of the remainder and the overflow in front of it. -/
theorem distribute_word (alignment : Alignment) (share content : Int) {carry : Carry}
    (late : carry.overflow ≤ 0) :
    let placed := distribute alignment share content carry
    ((placed.1.left + content + placed.1.right : Int) + placed.2.overflow) % Number.unsignedLimit =
        (share + (if 0 < carry.owed then 1 else 0) + carry.overflow) % Number.unsignedLimit ∧
      placed.2.overflow ≤ 0 ∧ -Number.signedLimit ≤ placed.2.overflow := by
  unfold Number.unsignedLimit Number.signedLimit
  simp only [distribute]
  have extra_le : ∃ extra : Int,
      (if 0 < carry.owed then 1 else 0) = extra ∧ 0 ≤ extra ∧ extra ≤ 1 := by
    split <;> exact ⟨_, rfl, by decide, by decide⟩
  obtain ⟨extra, extra_eq, extra_low, extra_high⟩ := extra_le
  rw [extra_eq]
  -- Every word is its number but for whole turns, and these drop out of the sum at the end.
  obtain ⟨_, free_eq, free_low, free_high⟩ := Number.exists_signed64_eq (share - content)
  generalize Number.signed64 (share - content) = free at free_eq free_low free_high ⊢
  have between := freeLeft_between alignment free
  generalize freeLeft alignment free = before at between ⊢
  obtain ⟨_, behind_eq, behind_low, behind_high⟩ :=
    Number.exists_signed64_eq (free - before + extra)
  generalize Number.signed64 (free - before + extra) = behind
    at behind_eq behind_low behind_high ⊢
  by_cases overflowed : carry.overflow < 0
  · simp only [overflowed, if_true]
    obtain ⟨_, moved_eq, moved_low, moved_high⟩ :=
      Number.exists_signed64_eq (before + carry.overflow)
    generalize Number.signed64 (before + carry.overflow) = moved
      at moved_eq moved_low moved_high ⊢
    obtain ⟨_, right_eq, right_low, right_high⟩ :=
      Number.exists_signed64_eq (behind + min (moved - 1) 0)
    generalize Number.signed64 (behind + min (moved - 1) 0) = right
      at right_eq right_low right_high ⊢
    rw [Number.signed64_of_range (n := 0 + min (max moved 1) 0 + min right 0) (by omega)
      (by omega)]
    omega
  · have none : carry.overflow = 0 := by omega
    simp only [none, Int.lt_irrefl, if_false]
    rw [Number.signed64_of_range (by omega) (by omega)]
    omega

end Padding

/-- Runs of padding are as wide as their spaces. -/
theorem totalWidth_paddingRuns (count : Nat) (style : TextStyle) :
    totalWidth (paddingRuns count style) = count := by
  unfold paddingRuns
  split
  · next none => simp [totalWidth, none]
  · simp [totalWidth, Element.width]

/-- A column of text is as wide as its content and its padding. -/
theorem Column.width_laidOut (profile : Profile) (share : Nat) (alignment : Alignment)
    (text : List Char) (carry : Carry) (state : Formatting) :
    let padding := (Column.padding profile share alignment text carry state).1
    (Column.laidOut profile share alignment text carry state).column.width =
      padding.left + contentWidth profile.charset state text + padding.right := by
  simp only [Column.laidOut, Column.width, totalWidth_append, totalWidth_paddingRuns, contentWidth]

/-- What one column of text does to the grid: it is as wide as its share with one character of the
remainder, less the excess it takes over and with the excess it leaves. -/
theorem Column.balance_laidOut (profile : Profile) {share : Nat} (alignment : Alignment)
    (text : List Char) {carry : Carry} (state : Formatting) (owed : 0 ≤ carry.owed)
    (given : share + carry.owed < Number.signedLimit) (late : carry.overflow ≤ 0)
    (held : contentWidth profile.charset state text + 1 - carry.overflow ≤ Number.signedLimit) :
    let read := Column.laidOut profile share alignment text carry state
    (read.column.width : Int) =
        share + min carry.owed 1 + carry.overflow - read.carry.overflow ∧
      read.carry.owed = carry.owed - min carry.owed 1 ∧ read.carry.overflow ≤ 0 ∧
      carry.overflow - contentWidth profile.charset state text - 1 ≤ read.carry.overflow := by
  have balance := Padding.distribute_balance alignment owed given late held (Prod.eta _).symm
  have width := Column.width_laidOut profile share alignment text carry state
  refine ⟨?_, balance.2⟩
  rw [width, Int.natCast_add, Int.natCast_add]
  exact balance.1

/-- A column of text takes its character of the remainder, and leaves the others. -/
theorem Column.owed_laidOut (profile : Profile) (share : Nat) (alignment : Alignment)
    (text : List Char) {carry : Carry} (state : Formatting) (owed : 0 ≤ carry.owed) :
    let read := Column.laidOut profile share alignment text carry state
    read.carry.owed = carry.owed - min carry.owed 1 ∧ 0 ≤ read.carry.owed := by
  intro read
  have taken : read.carry.owed = carry.owed - if 0 < carry.owed then 1 else 0 := rfl
  rw [Carry.given_eq_min owed] at taken
  omega

/-- What one column of text does to the grid as a word, whatever its content is. -/
theorem Column.word_laidOut (profile : Profile) (share : Nat) (alignment : Alignment)
    (text : List Char) {carry : Carry} (state : Formatting) (owed : 0 ≤ carry.owed)
    (late : carry.overflow ≤ 0) :
    let read := Column.laidOut profile share alignment text carry state
    ((read.column.width : Int) + read.carry.overflow) % Number.unsignedLimit =
        (share + min carry.owed 1 + carry.overflow) % Number.unsignedLimit ∧
      read.carry.overflow ≤ 0 ∧ -Number.signedLimit ≤ read.carry.overflow := by
  have width := Column.width_laidOut profile share alignment text carry state
  obtain ⟨word, bounds⟩ := Padding.distribute_word alignment (Number.signed64 share)
    (Number.signed64 (contentWidth profile.charset state text)) late
  refine ⟨?_, bounds⟩
  obtain ⟨_, share_eq, -⟩ := Number.exists_signed64_eq share
  obtain ⟨_, content_eq, -⟩ :=
    Number.exists_signed64_eq (contentWidth profile.charset state text)
  rw [Carry.given_eq_min owed] at word
  rw [width, Int.natCast_add, Int.natCast_add]
  unfold Number.unsignedLimit at word ⊢
  simp only [Column.padding, Column.laidOut] at word ⊢
  omega

namespace Line

/-- The widths of the contents of segments of text, from left to right behind a state of
formatting. -/
def contentWidths (charset : Charset) : Formatting → List (List Char) → List Nat
  | _, [] => []
  | state, segment :: rest =>
    let text := (splitMarker segment).2
    contentWidth charset state text :: contentWidths charset (scan state text).2 rest

/-- Each column of text is given one character of the remainder, as long as there is one. -/
theorem owed_parseColumns {profile : Profile} {source : MatrixSource} {sole : Bool} {share : Nat}
    {segments : List (List Char)} {carry after : Carry} {state next : Formatting}
    {columns : List Column}
    (parsed : parseColumns profile source sole share segments carry state =
      .ok (columns, after, next))
    (text : ∀ column ∈ columns, ∀ element ∈ column.elements, element.isText = true)
    (owed : 0 ≤ carry.owed) : after.owed = max (carry.owed - segments.length) 0 := by
  induction segments generalizing columns carry state with
  | nil =>
      obtain ⟨rfl, rfl, rfl⟩ := parseColumns_nil_eq_ok.mp parsed
      simp only [List.length_nil]
      omega
  | cons segment rest ih =>
      obtain ⟨read, others, first, later, rfl⟩ := parseColumns_cons_eq_ok.mp parsed
      rw [List.forall_mem_cons] at text
      obtain ⟨given, left⟩ := Column.owed_laidOut profile share (splitMarker segment).1
        (splitMarker segment).2 state owed
      rw [← Column.eq_laidOut_of_isText first text.1] at given left
      rw [ih later text.2 left, given, List.length_cons]
      omega

/-- Columns of text side by side are as wide as their shares with the remainder given out so far,
up to the excess they leave. -/
theorem sum_width_parseColumns {profile : Profile} {source : MatrixSource} {sole : Bool}
    {share : Nat} {segments : List (List Char)} {carry after : Carry} {state next : Formatting}
    {columns : List Column}
    (parsed : parseColumns profile source sole share segments carry state =
      .ok (columns, after, next))
    (text : ∀ column ∈ columns, ∀ element ∈ column.elements, element.isText = true)
    (owed : 0 ≤ carry.owed) (given : share + carry.owed < Number.signedLimit)
    (late : carry.overflow ≤ 0)
    (held : (contentWidths profile.charset state segments).sum + segments.length - carry.overflow ≤
      Number.signedLimit) :
    ((columns.map Column.width).sum : Int) =
        segments.length * share + min (segments.length : Int) carry.owed + carry.overflow -
          after.overflow ∧
      after.overflow ≤ 0 := by
  -- A column leaves no more than its content and one space, which is what the bound loses with it.
  induction segments generalizing columns carry state with
  | nil =>
      obtain ⟨rfl, rfl, rfl⟩ := parseColumns_nil_eq_ok.mp parsed
      simp only [List.map_nil, List.sum_nil, List.length_nil]
      omega
  | cons segment rest ih =>
      obtain ⟨read, others, first, later, rfl⟩ := parseColumns_cons_eq_ok.mp parsed
      rw [List.forall_mem_cons] at text
      simp only [contentWidths, List.sum_cons, List.length_cons] at held
      have laid := Column.eq_laidOut_of_isText first text.1
      obtain ⟨width, owed_eq, late_next, bound⟩ :=
        Column.balance_laidOut profile (splitMarker segment).1 (splitMarker segment).2 state owed
          given late (by omega)
      rw [← laid] at width owed_eq late_next bound
      have state_eq : read.state = (scan state (splitMarker segment).2).2 := by
        rw [laid, Column.laidOut]
      rw [← state_eq] at held
      obtain ⟨others_width, others_late⟩ :=
        ih later text.2 (by omega) (by omega) late_next (by omega)
      refine ⟨?_, others_late⟩
      rw [List.map_cons, List.sum_cons, List.length_cons, Int.natCast_add, Int.natCast_add,
        Int.add_mul, others_width, width]
      omega

/-- Columns of text side by side are as wide as their shares with the remainder given out so far as
a word, up to the excess they leave, whatever their contents are. -/
theorem sum_width_word {profile : Profile} {source : MatrixSource} {sole : Bool} {share : Nat}
    {segments : List (List Char)} {carry after : Carry} {state next : Formatting}
    {columns : List Column}
    (parsed : parseColumns profile source sole share segments carry state =
      .ok (columns, after, next))
    (text : ∀ column ∈ columns, ∀ element ∈ column.elements, element.isText = true)
    (owed : 0 ≤ carry.owed) (late : carry.overflow ≤ 0)
    (low : -Number.signedLimit ≤ carry.overflow) :
    (((columns.map Column.width).sum : Int) + after.overflow) % Number.unsignedLimit =
        (segments.length * share + min (segments.length : Int) carry.owed + carry.overflow) %
          Number.unsignedLimit ∧
      after.overflow ≤ 0 ∧ -Number.signedLimit ≤ after.overflow := by
  induction segments generalizing columns carry state with
  | nil =>
      obtain ⟨rfl, rfl, rfl⟩ := parseColumns_nil_eq_ok.mp parsed
      refine ⟨?_, late, low⟩
      simp [Int.min_eq_left owed]
  | cons segment rest ih =>
      obtain ⟨read, others, first, later, rfl⟩ := parseColumns_cons_eq_ok.mp parsed
      rw [List.forall_mem_cons] at text
      have laid := Column.eq_laidOut_of_isText first text.1
      obtain ⟨word, late_next, low_next⟩ := Column.word_laidOut profile share
        (splitMarker segment).1 (splitMarker segment).2 state owed late
      rw [← laid] at word late_next low_next
      obtain ⟨owed_eq, left⟩ := Column.owed_laidOut profile share (splitMarker segment).1
        (splitMarker segment).2 state owed
      rw [← laid] at owed_eq left
      obtain ⟨others_word, bounds⟩ := ih later text.2 left late_next low_next
      refine ⟨?_, bounds⟩
      have given : min ((rest.length : Int) + 1) carry.owed =
          min carry.owed 1 + min (rest.length : Int) read.carry.owed := by
        omega
      rw [List.map_cons, List.sum_cons, List.length_cons, Int.natCast_add, Int.natCast_add,
        Int.add_mul, Int.natCast_one, given]
      unfold Number.unsignedLimit at word others_word ⊢
      omega

/-- What the first columns of a line of text fill, as a word and, while words with a sign hold their
contents and a space for each, as a number. -/
theorem sum_width_take {profile : Profile} {source : MatrixSource} {sole : Bool}
    {share rest : Nat} {segments : List (List Char)} {after : Carry} {state next : Formatting}
    {columns : List Column}
    (parsed : parseColumns profile source sole share segments ⟨rest, 0⟩ state =
      .ok (columns, after, next))
    (text : ∀ column ∈ columns, ∀ element ∈ column.elements, element.isText = true)
    (given : share + rest < Number.signedLimit) {k : Nat} (le : k ≤ segments.length) :
    ∃ (carry : Carry) (between : Formatting),
      parseColumns profile source sole share (segments.take k) ⟨rest, 0⟩ state =
          .ok (columns.take k, carry, between) ∧
        carry.owed = max ((rest : Int) - k) 0 ∧ carry.overflow ≤ 0 ∧
        -Number.signedLimit ≤ carry.overflow ∧
        ((((columns.take k).map Column.width).sum : Int) + carry.overflow) %
            Number.unsignedLimit = (k * share + min k rest : Nat) % Number.unsignedLimit ∧
        ((contentWidths profile.charset state (segments.take k)).sum + k ≤ Number.signedLimit →
          (((columns.take k).map Column.width).sum : Int) =
            (k * share + min k rest : Nat) - carry.overflow) := by
  obtain ⟨carry, between, shorter⟩ := parseColumns_take parsed k
  have length_eq : (segments.take k).length = k := by
    rw [List.length_take]
    exact Nat.min_eq_left le
  have fewer_text : ∀ column ∈ columns.take k, ∀ element ∈ column.elements,
      element.isText = true := fun column mem => text column (List.mem_of_mem_take mem)
  have start_owed : 0 ≤ (⟨rest, 0⟩ : Carry).owed := Int.natCast_nonneg rest
  have start_late : (⟨rest, 0⟩ : Carry).overflow ≤ 0 := Int.le_refl 0
  have start_low : -Number.signedLimit ≤ (⟨rest, 0⟩ : Carry).overflow :=
    Int.neg_nonpos_of_nonneg (Int.natCast_nonneg _)
  have owed := owed_parseColumns shorter fewer_text start_owed
  obtain ⟨word, late, low⟩ :=
    sum_width_word shorter fewer_text start_owed start_late start_low
  rw [length_eq] at owed word
  have place_eq : (k : Int) * share + min (k : Int) rest + 0 = (k * share + min k rest : Nat) := by
    rw [Int.add_zero, Int.natCast_add, Int.natCast_mul]
    omega
  refine ⟨carry, between, shorter, owed, late, low, ?_, fun held => ?_⟩
  · rw [word, ← place_eq]
  · have exactly := (sum_width_parseColumns shorter fewer_text start_owed (by dsimp only; omega)
      start_late (by rw [length_eq]; dsimp only; omega)).1
    rw [length_eq] at exactly
    rw [exactly, ← place_eq]

/-- On paper whose characters fit their words, the remainder that is owed at first is exact. -/
theorem signed64_mod {chars : Nat} (narrow : chars < Number.signedLimit) (count : Nat) :
    Number.signed64 (chars % count : Nat) = (chars % count : Nat) := by
  have le := Nat.mod_le chars count
  unfold Number.signedLimit at narrow
  exact Number.signed64_of_range (by omega) (by omega)

/-- A share and the remainder are no more than the characters they come from. -/
theorem div_add_mod_le (chars count : Nat) (pos : 0 < count) :
    chars / count + chars % count ≤ chars := by
  have whole := Nat.div_add_mod chars count
  have one_share := Nat.le_mul_of_pos_left (chars / count) pos
  omega

/-- No place of the grid is behind the end of the paper. -/
theorem place_le {chars count k : Nat} (le : k ≤ count) :
    k * (chars / count) + min k (chars % count) ≤ chars := by
  have whole := Nat.div_add_mod chars count
  have shares := Nat.mul_le_mul_right (chars / count) le
  have owed := Nat.min_le_right k (chars % count)
  omega

/-- What is filled up to an excess, if it is known as a word, starts no column left of its place.  It
is what the word says as long as a word holds it. -/
theorem filled_of_word {filled place : Nat} {overflow : Int}
    (word : ((filled : Int) + overflow) % Number.unsignedLimit = place % Number.unsignedLimit)
    (late : overflow ≤ 0) (low : -Number.signedLimit ≤ overflow)
    (narrow : place < Number.signedLimit) :
    place ≤ filled ∧ (Number.unsigned64 filled : Int) = place - overflow ∧
      ((filled : Int) = place - overflow ↔ filled < Number.unsignedLimit) := by
  rw [Number.unsigned64_eq_mod]
  unfold Number.unsignedLimit Number.signedLimit at *
  omega

/-- The columns of a line are read on equal shares of the paper, and the whole remainder is owed to
them. -/
theorem columns_of_parse {profile : Profile} {source : MatrixSource} {text : List Char}
    {state next : Formatting} {line : Line}
    (parsed : Line.parse profile source text state = .ok (line, next))
    (narrow : profile.charsPerLine < Number.signedLimit) :
    let chars := profile.charsPerLine
    let count := line.columns.length
    0 < count ∧ count = (splitSegments text).length ∧ line.share = chars / count ∧
      parseColumns profile source (count == 1) (chars / count) (splitSegments text)
          ⟨(chars % count : Nat), 0⟩ state = .ok (line.columns, line.carry, next) := by
  obtain ⟨share_eq, columns⟩ := parse_eq_ok.mp parsed
  have count_eq := length_parseColumns columns
  rw [← count_eq] at share_eq columns
  rw [signed64_mod narrow] at columns
  refine ⟨?_, count_eq, share_eq, columns⟩
  rw [count_eq]
  exact List.length_pos_iff.mpr (splitSegments_ne_nil text)

/-- The grid of a line.  Let the characters of the paper be shared among the columns of a line of
text, one more going to each of the first `rest` ones.  After `k` columns, `k` shares and the part
of the remainder given out so far are filled, and what is filled beyond them is the overflow that
is carried on.  No column starts left of its place, the whole remainder is given out, and the line is
as wide as the paper with the overflow its last column leaves.  As words the widths are always these;
as numbers they are if a word holds them, as it does if the contents so far, with a space for each
column, fit a word with a sign. -/
theorem width_on_grid {profile : Profile} {source : MatrixSource} {text : List Char}
    {state next : Formatting} {line : Line}
    (parsed : Line.parse profile source text state = .ok (line, next)) (isText : line.IsText)
    (narrow : profile.charsPerLine < Number.signedLimit) :
    let chars := profile.charsPerLine
    let count := line.columns.length
    let share := chars / count
    let rest := chars % count
    let place := fun k => k * share + min k rest
    let filled := fun k => ((line.columns.take k).map Column.width).sum
    0 < count ∧ line.share = share ∧
      (∀ k ≤ count, ∃ (carry : Carry) (between : Formatting),
        parseColumns profile source (count == 1) share ((splitSegments text).take k) ⟨rest, 0⟩
            state = .ok (line.columns.take k, carry, between) ∧
          carry.owed = max ((rest : Int) - k) 0 ∧ carry.overflow ≤ 0 ∧ place k ≤ filled k ∧
          (Number.unsigned64 (filled k) : Int) = place k - carry.overflow ∧
          ((filled k : Int) = place k - carry.overflow ↔ filled k < Number.unsignedLimit) ∧
          ((contentWidths profile.charset state ((splitSegments text).take k)).sum + k ≤
            Number.signedLimit → (filled k : Int) = place k - carry.overflow)) ∧
      line.carry.owed = 0 ∧ line.carry.overflow ≤ 0 ∧ chars ≤ line.width ∧
      (Number.unsigned64 line.width : Int) = chars - line.carry.overflow ∧
      ((line.width : Int) = chars - line.carry.overflow ↔ line.width < Number.unsignedLimit) ∧
      ((contentWidths profile.charset state (splitSegments text)).sum + count ≤
        Number.signedLimit → (line.width : Int) = chars - line.carry.overflow) := by
  obtain ⟨count_pos, count_eq, share_eq, columns⟩ := columns_of_parse parsed narrow
  have given := div_add_mod_le profile.charsPerLine line.columns.length count_pos
  have first := fun {k : Nat} (le : k ≤ line.columns.length) =>
    sum_width_take columns (isText_iff.mp isText) (by omega) (count_eq ▸ le)
  refine ⟨count_pos, share_eq, ?_, ?_⟩
  · intro k le
    obtain ⟨carry, between, shorter, owed, late, low, word, exactly⟩ := first le
    have inside := Nat.lt_of_le_of_lt (place_le le) narrow
    obtain ⟨reached, as_word, as_number⟩ := filled_of_word word late low inside
    exact ⟨carry, between, shorter, owed, late, reached, as_word, as_number, exactly⟩
  · obtain ⟨carry, between, all, owed, late, low, word, exactly⟩ := first (Nat.le_refl _)
    have whole : line.columns.length * (profile.charsPerLine / line.columns.length) +
        min line.columns.length (profile.charsPerLine % line.columns.length) =
          profile.charsPerLine := by
      rw [Nat.min_eq_right (Nat.le_of_lt (Nat.mod_lt _ count_pos)), Nat.div_add_mod]
    rw [List.take_length, ← width_eq_sum, whole] at word exactly
    rw [count_eq, List.take_length] at exactly
    rw [List.take_length, count_eq, List.take_length, ← count_eq, columns] at all
    obtain ⟨-, rfl, -⟩ := all
    obtain ⟨reached, as_word, as_number⟩ := filled_of_word word late low narrow
    have rest_lt := Nat.mod_lt profile.charsPerLine count_pos
    refine ⟨?_, late, reached, as_word, as_number, ?_⟩
    · omega
    · rw [count_eq]
      exact exactly

/-- A line whose first column is wider than its share. -/
def wideFirstText : List Char :=
  "[L]<font size='big-6'>abc</font>[R]0123456789ab".toList

/-- That line on paper of 32 characters. -/
def wideFirst : Line :=
  let letters : TextRun := ⟨['a', 'b', 'c'], { TextStyle.plain with size := .big6 }, 21⟩
  let digits : TextRun :=
    ⟨['0', '1', '2', '3', '4', '5', '6', '7', '8', '9', 'a', 'b'], .plain, 12⟩
  ⟨[⟨.left, [.text ⟨[], .plain, 0⟩, .text letters, .text ⟨[], .plain, 0⟩]⟩,
    ⟨.right, [.text ⟨[' '], .plain, 1⟩, .text digits]⟩], 16, ⟨0, -2⟩⟩

/-- The second column gives up three of its four free characters, and two more cannot be made up
for. -/
theorem width_on_grid_wideFirst :
    (wideFirst.width : Int) = 32 - wideFirst.carry.overflow ∧ wideFirst.carry.owed = 0 ∧
      32 ≤ wideFirst.width := by
  have parsed : Line.parse .mm58 Qr.encode wideFirstText .initial = .ok (wideFirst, .initial) := by
    decide +kernel
  have isText : wideFirst.IsText := by decide
  obtain ⟨-, -, -, owed, -, reached, -, exactly, -⟩ :=
    width_on_grid parsed isText (by decide)
  exact ⟨exactly.mpr (by decide), owed, reached⟩

/-- A column of so many spaces. -/
def blankColumn (count : Nat) : List Char :=
  '[' :: 'L' :: ']' :: List.replicate count ' '

/-- The second marker cuts the line. -/
theorem splitSegments_blankPair (count : Nat) :
    splitSegments (blankColumn count ++ blankColumn count) =
      [blankColumn count, blankColumn count] := by
  have bare := not_mem_spaces (show '[' ≠ ' ' by decide) count
  have second : ∀ start : List Char, start ≠ [] → segmentsFrom start (blankColumn count) =
      [start.reverse, blankColumn count] := by
    intro start begun
    have marked : (startsWithMarker (blankColumn count) && !start.isEmpty) = true := by
      simpa [startsWithMarker, blankColumn] using begun
    have behind : segmentsFrom ['['] ('L' :: ']' :: List.replicate count ' ') =
        [blankColumn count] := by
      rw [segmentsFrom_of_not_mem (by simp [bare])]
      rfl
    rw [blankColumn, segmentsFrom]
    rw [blankColumn] at marked
    rw [if_pos marked, behind, blankColumn]
  have first : splitSegments (blankColumn count ++ blankColumn count) =
      segmentsFrom [']', 'L', '['] (List.replicate count ' ' ++ blankColumn count) := rfl
  rw [first, segmentsFrom_append_of_not_mem bare, second _ (by simp)]
  simp [blankColumn]

/-- Two columns of spaces are laid out one behind the other. -/
theorem parse_blankPair (profile : Profile) (source : MatrixSource) (state : Formatting)
    (count : Nat) :
    let share := profile.charsPerLine / 2
    let owed := Number.signed64 (profile.charsPerLine % 2 : Nat)
    let spaces := List.replicate count ' '
    let first := Column.laidOut profile share .left spaces ⟨owed, 0⟩ state
    let second := Column.laidOut profile share .left spaces first.carry state
    Line.parse profile source (blankColumn count ++ blankColumn count) state =
      .ok (⟨[first.column, second.column], share, second.carry⟩, state) := by
  intro share owed spaces first second
  have column (carry : Carry) :
      Column.parse profile source false share (blankColumn count) carry state =
        .ok (Column.laidOut profile share .left spaces carry state) := by
    have marker : splitMarker (blankColumn count) = (.left, spaces) := rfl
    rw [Column.parse_eq_ok, marker]
    refine .inr ⟨rfl, Column.ofText_eq_ok.mpr ⟨?_, rfl⟩⟩
    rw [scan_spaces]
    exact List.forall_mem_singleton.mpr (profile.charset.encodes_spaces count)
  have same (carry : Carry) :
      (Column.laidOut profile share .left spaces carry state).state = state :=
    congrArg Prod.snd (scan_spaces state count)
  rw [parse_eq_ok, splitSegments_blankPair]
  refine ⟨rfl, parseColumns_cons_eq_ok.mpr ⟨first, [second.column], column _, ?_, rfl⟩⟩
  rw [same]
  refine parseColumns_cons_eq_ok.mpr ⟨second, [], column _, ?_, rfl⟩
  exact parseColumns_nil_eq_ok.mpr ⟨rfl, rfl, (same _).symm⟩

/-- Two columns of spaces on paper of 32 characters are padded one behind the other. -/
theorem width_blankPair {count : Nat} {first second : Padding} {between after : Carry}
    (front : Padding.distribute .left (Number.signed64 16) (Number.signed64 count) ⟨0, 0⟩ =
      (first, between))
    (back : Padding.distribute .left (Number.signed64 16) (Number.signed64 count) between =
      (second, after)) :
    ∃ line, Line.parse .mm58 Qr.encode (blankColumn count ++ blankColumn count) .initial =
        .ok (line, .initial) ∧ line.IsText ∧
      contentWidths Profile.mm58.charset .initial
        (splitSegments (blankColumn count ++ blankColumn count)) = [count, count] ∧
      line.carry = after ∧
      line.width = first.left + count + first.right + (second.left + count + second.right) := by
  have content : contentWidth Profile.mm58.charset .initial (List.replicate count ' ') = count := by
    rw [contentWidth_spaces]
    exact Nat.mul_one count
  have padded (carry : Carry) :
      Column.padding .mm58 16 .left (List.replicate count ' ') carry .initial =
        Padding.distribute .left (Number.signed64 16) (Number.signed64 count) carry := by
    rw [Column.padding, content]
    rfl
  have first_carry : (Column.laidOut .mm58 16 .left (List.replicate count ' ') ⟨0, 0⟩
      .initial).carry = between := congrArg Prod.snd ((padded _).trans front)
  have parsed := parse_blankPair .mm58 Qr.encode .initial count
  have share_eq : Profile.mm58.charsPerLine / 2 = 16 := rfl
  have owed_eq : Number.signed64 (Profile.mm58.charsPerLine % 2 : Nat) = 0 := rfl
  simp only [share_eq, owed_eq, first_carry] at parsed
  refine ⟨_, parsed, ?_, ?_, congrArg Prod.snd ((padded _).trans back), ?_⟩
  · rw [isText_iff]
    intro column mem element held
    simp only [List.mem_cons, List.not_mem_nil, or_false] at mem
    rcases mem with rfl | rfl
    · exact Column.isText_laidOut held
    · exact Column.isText_laidOut held
  · have marker : splitMarker (blankColumn count) = (.left, List.replicate count ' ') := rfl
    simp only [splitSegments_blankPair, contentWidths, marker, scan_spaces, content]
  · rw [width_eq_sum]
    simp only [List.map_cons, List.map_nil, List.sum_cons, List.sum_nil, Column.width_laidOut,
      padded, front, back, content, Nat.add_zero]

/-- Two columns whose widths words with a sign hold each: the overflow that the second one leaves is
one that no word holds, and the line is as wide as all words and its paper. -/
theorem width_off_grid :
    let spaces := 4611686018427388004
    let text := blankColumn spaces ++ blankColumn spaces
    ∃ line, Line.parse .mm58 Qr.encode text .initial = .ok (line, .initial) ∧ line.IsText ∧
      Profile.mm58.charsPerLine < Number.signedLimit ∧
      contentWidths Profile.mm58.charset .initial (splitSegments text) = [spaces, spaces] ∧
      spaces < Number.signedLimit ∧ line.carry.overflow = 0 ∧
      line.width = Number.unsignedLimit + 32 ∧
      (line.width : Int) ≠ Profile.mm58.charsPerLine - line.carry.overflow := by
  intro spaces text
  have front : Padding.distribute .left (Number.signed64 16) (Number.signed64 spaces) ⟨0, 0⟩ =
      (⟨0, 0⟩, ⟨0, -4611686018427387988⟩) := by decide +kernel
  have back : Padding.distribute .left (Number.signed64 16) (Number.signed64 spaces)
      ⟨0, -4611686018427387988⟩ = (⟨1, 9223372036854775639⟩, ⟨0, 0⟩) := by decide +kernel
  obtain ⟨line, parsed, isText, contents, carry, width⟩ := width_blankPair front back
  refine ⟨line, parsed, isText, by decide, contents, by decide, ?_, ?_, ?_⟩
  · rw [carry]
  · rw [width]
    decide +kernel
  · rw [width, carry]
    decide +kernel

end Line

end Markup

end Receipt
