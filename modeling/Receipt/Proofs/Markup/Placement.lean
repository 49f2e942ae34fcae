import Receipt.Proofs.Markup.Grid

/-!
# Where padding goes

Content that fits its share, with no overflow in front of it, has its free characters on the side
that its alignment leaves, and a character of the remainder on the right.  Behind an overflow the
alignment only says where spaces go, not what is left: a column starts with a space, and the excess
becomes smaller by the free characters but for that space.  The counts are exact as long as their
words hold them.
-/

set_option autoImplicit false

namespace Receipt.Markup

/-- The character of the remainder that the next column gets, if one is still owed. -/
def Carry.extra (carry : Carry) : Nat :=
  if 0 < carry.owed then 1 else 0

/-- The character of the remainder is the one that is still owed. -/
theorem Carry.extra_eq_min {carry : Carry} (owed : 0 ≤ carry.owed) :
    (carry.extra : Int) = min carry.owed 1 := by
  rw [← given_eq_min owed]
  exact apply_ite Int.ofNat (0 < carry.owed) 1 0

namespace Padding

/-- The padding of content that leaves free characters and gets extra ones. -/
def fitting (alignment : Alignment) (free extra : Nat) : Padding :=
  match alignment with
  | .left => ⟨0, free + extra⟩
  | .center => ⟨free / 2, free - free / 2 + extra⟩
  | .right => ⟨free, extra⟩

variable {alignment : Alignment} {share content : Nat} {carry : Carry}

/-- Content that fits its share is padded as its alignment says and leaves no overflow. -/
theorem distribute_of_fits (owed : 0 ≤ carry.owed)
    (given : share + carry.owed < Number.signedLimit) (onTime : carry.overflow = 0)
    (fits : content ≤ share) :
    let placed :=
      distribute alignment (Number.signed64 share) (Number.signed64 content) carry
    placed.1 = fitting alignment (share - content) carry.extra ∧ placed.2.overflow = 0 := by
  have held : content + 1 - carry.overflow ≤ Number.signedLimit := by omega
  rw [distribute_eq owed given (Int.le_of_eq onTime) held, ← Carry.extra_eq_min owed]
  simp only [onTime, Int.lt_irrefl, if_false]
  cases alignment with
  | left =>
      simp only [freeLeft, fitting, Padding.mk.injEq]
      omega
  | center =>
      have half : Int.tdiv ((share : Int) - content) 2 = ((share - content) / 2 : Nat) := by
        rw [← Int.ofNat_sub fits, Int.ofNat_tdiv]
        rfl
      simp only [freeLeft, fitting, half, Padding.mk.injEq]
      omega
  | right =>
      simp only [freeLeft, fitting, Padding.mk.injEq]
      omega

/-- Behind an overflow there is a space, whatever the counts are. -/
theorem one_le_left (columnWidth contentWidth : Int) (late : carry.overflow < 0) :
    1 ≤ (distribute alignment columnWidth contentWidth carry).1.left := by
  simp only [distribute, late, if_true]
  omega

/-- A column behind an overflow takes of it what it has free beside one space. -/
theorem overflow_distribute (owed : 0 ≤ carry.owed)
    (given : share + carry.owed < Number.signedLimit) (late : carry.overflow < 0)
    (held : content + 1 - carry.overflow ≤ Number.signedLimit) :
    (distribute alignment (Number.signed64 share) (Number.signed64 content) carry).2.overflow =
      min 0 (share - content + carry.extra + carry.overflow - 1) := by
  have between := freeLeft_between alignment ((share : Int) - content)
  rw [distribute_eq owed given (Int.le_of_lt late) held, ← Carry.extra_eq_min owed]
  dsimp only
  -- Only the bounds of the free characters on the left are used, so that the alignment drops out.
  generalize freeLeft alignment ((share : Int) - content) = before at between ⊢
  simp only [late, if_true]
  omega

end Padding

namespace Line

/-- Where padding goes on a line of text.  A column is its text between two runs of spaces of normal
size and weight, the left one in the style in front of the text, the right one in the style behind
it.  Behind an overflow there is at least one space on the left.  On paper whose characters fit
their words, one character is owed behind each column less.  There, content that fits its share with
no overflow in front of it is padded as its alignment says, and behind an overflow the free
characters less one are taken of it, for every alignment, as long as the words hold it. -/
theorem padding_on_line {profile : Profile} {source : MatrixSource} {text : List Char}
    {state next : Formatting} {line : Line}
    (parsed : Line.parse profile source text state = .ok (line, next)) (isText : line.IsText)
    {k : Nat} {segment : List Char} (cut : (splitSegments text)[k]? = some segment) :
    let segments := splitSegments text
    let chars := profile.charsPerLine
    let share := chars / segments.length
    let rest := chars % segments.length
    let columnsOf := fun first => parseColumns profile source (segments.length == 1) share first
      ⟨Number.signed64 (rest : Nat), 0⟩ state
    let alignment := (splitMarker segment).1
    let content := (splitMarker segment).2
    ∃ (before after : Carry) (between behind : Formatting) (padding : Padding),
      columnsOf (segments.take k) = .ok (line.columns.take k, before, between) ∧
      columnsOf (segments.take (k + 1)) = .ok (line.columns.take (k + 1), after, behind) ∧
      line.columns[k]? = some ⟨alignment, paddingRuns padding.left between.current ++
        contentRuns profile.charset between content ++
          paddingRuns padding.right behind.current⟩ ∧
      (before.overflow < 0 → 1 ≤ padding.left) ∧
      (chars < Number.signedLimit →
        let width := contentWidth profile.charset between content
        before.owed = max ((rest : Int) - k) 0 ∧
          (before.overflow = 0 → width ≤ share →
            padding = Padding.fitting alignment (share - width) before.extra ∧ after.overflow = 0) ∧
          (before.overflow < 0 → width + 1 - before.overflow ≤ Number.signedLimit →
            after.overflow = min 0 (share - width + before.extra + before.overflow - 1))) := by
  intro segments chars share rest columnsOf alignment content
  obtain ⟨-, columns⟩ := parse_eq_ok.mp parsed
  have text_only := isText_iff.mp isText
  obtain ⟨before, between, read, front, made, placed, whole⟩ := parseColumns_getElem columns cut
  -- A column of text is one step of `distribute` behind the carry of those in front of it.
  have laid := Column.eq_laidOut_of_isText made
    (text_only read.column (List.mem_of_getElem? placed))
  subst laid
  refine ⟨before, _, between, _, (Column.padding profile share alignment content before between).1,
    front, whole, placed, Padding.one_le_left _ _, fun narrow => ?_⟩
  have length_eq : (segments.take k).length = k := by
    rw [List.length_take]
    exact Nat.min_eq_left (Nat.le_of_lt (List.getElem?_eq_some_iff.mp cut).1)
  have start_owed : Number.signed64 (rest : Nat) = rest := signed64_mod narrow segments.length
  -- What is owed depends on the number of columns in front alone, whatever their counts did.
  have owed : before.owed = max ((rest : Int) - k) 0 := by
    have start_nonneg : 0 ≤ Number.signed64 (rest : Nat) := by
      rw [start_owed]
      exact Int.natCast_nonneg rest
    have given : before.owed = max (Number.signed64 (rest : Nat) - (segments.take k).length) 0 :=
      owed_parseColumns front (fun column mem => text_only column (List.mem_of_mem_take mem))
        start_nonneg
    rw [given, start_owed, length_eq]
  have enough : share + before.owed < Number.signedLimit := by
    have bound := div_add_mod_le chars segments.length
      (List.length_pos_iff.mpr (splitSegments_ne_nil text))
    omega
  refine ⟨owed, fun onTime fits => ?_, fun late held => ?_⟩
  · exact Padding.distribute_of_fits (by omega) enough onTime fits
  · exact Padding.overflow_distribute (by omega) enough late held

/-- A line whose first column fits, whose second one does not and whose third one comes too late. -/
def crowdedText : List Char :=
  "[C]abc[L]<font size='big-6'>abc</font>[R]xy".toList

/-- That line on paper of 32 characters. -/
def crowded : Line :=
  let run (text : List Char) : Element := .text ⟨text, .plain, text.length⟩
  let letters : TextRun := ⟨['a', 'b', 'c'], { TextStyle.plain with size := .big6 }, 21⟩
  ⟨[⟨.center, [run [' ', ' ', ' '], run ['a', 'b', 'c'], run [' ', ' ', ' ', ' ', ' ']]⟩,
    ⟨.left, [run [], .text letters, run []]⟩, ⟨.right, [run [' '], run ['x', 'y']]⟩], 10, ⟨0, -3⟩⟩

/-- The first column has its seven free characters on both sides and one more on the right; the
third one starts with a space and takes seven of the ten characters that the second one is too
wide. -/
theorem padding_on_line_crowded :
    (∃ behind : Formatting, crowded.columns[0]? =
      some ⟨.center, paddingRuns 3 Formatting.initial.current ++
        contentRuns Profile.mm58.charset .initial ['a', 'b', 'c'] ++
          paddingRuns 5 behind.current⟩) ∧
      ∃ (before after : Carry) (padding : Padding) (behind : Formatting),
        before.overflow = -10 ∧ after.overflow = -3 ∧ 1 ≤ padding.left ∧
          crowded.columns[2]? =
            some ⟨.right, paddingRuns padding.left Formatting.initial.current ++
              contentRuns Profile.mm58.charset .initial ['x', 'y'] ++
                paddingRuns padding.right behind.current⟩ := by
  have parsed : Line.parse .mm58 Qr.encode crowdedText .initial = .ok (crowded, .initial) := by
    decide +kernel
  have isText : crowded.IsText := by decide
  have first : (splitSegments crowdedText)[0]? = some "[C]abc".toList := by decide +kernel
  have third : (splitSegments crowdedText)[2]? = some "[R]xy".toList := by decide +kernel
  constructor
  · obtain ⟨before, after, between, behind, padding, front, -, column, -, exactly⟩ :=
      padding_on_line parsed isText first
    obtain ⟨-, rfl, rfl⟩ := parseColumns_nil_eq_ok.mp front
    obtain ⟨-, fits, -⟩ := exactly (by decide)
    have padding_eq : padding = ⟨3, 5⟩ :=
      (fits rfl (by decide +kernel)).1.trans (by decide +kernel)
    rw [padding_eq] at column
    exact ⟨behind, column⟩
  · obtain ⟨before, after, between, behind, padding, front, -, column, apart, exactly⟩ :=
      padding_on_line parsed isText third
    have known : parseColumns .mm58 Qr.encode ((splitSegments crowdedText).length == 1)
        (Profile.mm58.charsPerLine / (splitSegments crowdedText).length)
        ((splitSegments crowdedText).take 2)
        ⟨Number.signed64 (Profile.mm58.charsPerLine % (splitSegments crowdedText).length : Nat), 0⟩
        .initial = .ok (crowded.columns.take 2, ⟨0, -10⟩, .initial) := by
      decide +kernel
    have same := front.symm.trans known
    cases same
    obtain ⟨-, -, late⟩ := exactly (by decide)
    refine ⟨⟨0, -10⟩, after, padding, behind, rfl, ?_, apart (by decide), column⟩
    exact (late (by decide) (by decide +kernel)).trans (by decide +kernel)

/-- Paper of more characters than a word with a sign holds. -/
def endlessPaper : Profile :=
  { Profile.mm58 with charsPerLine := 18446744073709551615, charsPerLine_pos := by decide }

/-- On such paper the empty first column of two gets no padding at all: one character more than its
share makes its count start anew at the other end, and an overflow is recorded.  On any paper, an
overflow that no word holds is lost: it takes content of as many characters in front of a column
that is too wide itself. -/
theorem padding_on_endless_paper :
    let share := endlessPaper.charsPerLine / 2
    let run (text : List Char) : Element := .text ⟨text, .plain, text.length⟩
    Line.parse endlessPaper Qr.encode "[L][R]".toList .initial =
        .ok (⟨[⟨.left, [run []]⟩, ⟨.right, [run [' '], run []]⟩], share, ⟨0, -2⟩⟩, .initial) ∧
      contentWidth endlessPaper.charset .initial [] = 0 ∧
      Padding.fitting .left (share - 0) 1 = ⟨0, 9223372036854775808⟩ ∧
      Column.padding endlessPaper share .left [] ⟨1, 0⟩ .initial =
        (⟨0, 0⟩, ⟨0, -9223372036854775808⟩) ∧
      Padding.distribute .left (Number.signed64 16) (Number.signed64 9223372036854775808) ⟨0, 0⟩ =
        (⟨0, 0⟩, ⟨0, -9223372036854775792⟩) ∧
      min 0 (16 - 100 + 0 + -9223372036854775792 - 1) = (-9223372036854775877 : Int) ∧
      (Padding.distribute .left (Number.signed64 16) (Number.signed64 100)
        ⟨0, -9223372036854775792⟩).2.overflow = 0 := by
  refine ⟨?_, ?_, ?_, ?_, ?_, ?_, ?_⟩ <;> decide +kernel

end Line

end Receipt.Markup
