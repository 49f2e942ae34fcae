import Mathlib.Data.List.Induction
import Mathlib.Data.List.Infix
import Receipt.Proofs.Markup.Stacks

/-!
# Balanced tags

The tags of a kind are balanced if none of them closes more than is open, and nothing is open at the
end.  Balanced tags with known values restore the state of formatting, whatever tags of other kinds
stand between them.  Inside, a stack holds the values that the tags still open have pushed, on top of
what it held before, so that the value in force is that of the innermost open tag that sets one.
-/

set_option autoImplicit false

namespace Receipt.Markup

/-- How many tags of a kind open. -/
def openings (kind : FormatKind) (tags : List Tag) : Nat :=
  tags.countP (fun tag => tag.name = kind.tagName ∧ tag.closing = false)

/-- How many tags of a kind close. -/
def closings (kind : FormatKind) (tags : List Tag) : Nat :=
  tags.countP (fun tag => tag.name = kind.tagName ∧ tag.closing = true)

/-- Whether the tags of a kind are balanced. -/
structure Balanced (kind : FormatKind) (tags : List Tag) : Prop where
  sane : ∀ front, front <+: tags → closings kind front ≤ openings kind front
  settled : closings kind tags = openings kind tags

instance (kind : FormatKind) (tags : List Tag) : Decidable (Balanced kind tags) :=
  decidable_of_iff
    ((∀ front ∈ tags.inits, closings kind front ≤ openings kind front) ∧
      closings kind tags = openings kind tags)
    ⟨fun h => ⟨fun front start => h.1 front ((List.mem_inits front tags).mpr start), h.2⟩,
      fun h => ⟨fun front mem => h.sane front ((List.mem_inits front tags).mp mem), h.settled⟩⟩

/-- The tags of a kind that are open, the innermost one first, behind one more tag. -/
def nest (kind : FormatKind) (opened : List Tag) (tag : Tag) : List Tag :=
  if tag.name = kind.tagName then
    if tag.closing then opened.tail else tag :: opened
  else opened

/-- The tags of a kind that are still open behind tags, the innermost one first. -/
def stillOpen (kind : FormatKind) (tags : List Tag) : List Tag :=
  tags.foldl (nest kind) []

/-- The last tag opens or closes behind the others. -/
theorem stillOpen_concat (kind : FormatKind) (tags : List Tag) (tag : Tag) :
    stillOpen kind (tags ++ [tag]) = nest kind (stillOpen kind tags) tag := by
  rw [stillOpen, List.foldl_append]
  rfl

/-- An opening tag of the kind is one more of them. -/
theorem openings_concat (kind : FormatKind) (tags : List Tag) (tag : Tag) :
    openings kind (tags ++ [tag]) =
      openings kind tags + if tag.name = kind.tagName ∧ tag.closing = false then 1 else 0 := by
  simp only [openings, List.countP_append, List.countP_singleton, decide_eq_true_eq]

/-- A closing tag of the kind is one more of them. -/
theorem closings_concat (kind : FormatKind) (tags : List Tag) (tag : Tag) :
    closings kind (tags ++ [tag]) =
      closings kind tags + if tag.name = kind.tagName ∧ tag.closing = true then 1 else 0 := by
  simp only [closings, List.countP_append, List.countP_singleton, decide_eq_true_eq]

/-- Where no tag closes more than is open, those that are still open are those that did not close. -/
theorem length_stillOpen {kind : FormatKind} {tags : List Tag}
    (sane : ∀ front, front <+: tags → closings kind front ≤ openings kind front) :
    (stillOpen kind tags).length + closings kind tags = openings kind tags := by
  induction tags using List.reverseRecOn with
  | nil => rfl
  | append_singleton tags tag ih =>
      have inner := ih fun front start => sane front (start.trans (List.prefix_append tags [tag]))
      have whole := sane _ List.prefix_rfl
      rw [openings_concat, closings_concat] at whole
      rw [stillOpen_concat, openings_concat, closings_concat, nest]
      by_cases own : tag.name = kind.tagName
      · cases closing : tag.closing with
        | true =>
            simp only [own, closing, and_self, if_true, List.length_tail, reduceCtorEq, and_false,
              if_false] at whole ⊢
            omega
        | false =>
            simp only [own, and_self, if_true, List.length_cons, Bool.false_eq_true, and_false,
              if_false]
            omega
      · simpa only [own, false_and, if_false, Nat.add_zero] using inner

/-- Behind balanced tags none is open. -/
theorem Balanced.stillOpen_eq_nil {kind : FormatKind} {tags : List Tag}
    (balanced : Balanced kind tags) : stillOpen kind tags = [] := by
  have length_eq := length_stillOpen balanced.sane
  rw [balanced.settled] at length_eq
  exact List.length_eq_zero_iff.mp (by omega)

namespace StackRule

variable {α : Type}

/-- A stack with what open tags have pushed onto it, the innermost one last. -/
def pile (rule : StackRule α) (stack : StyleStack α) : List Tag → StyleStack α
  | [] => stack
  | tag :: outer => (pile rule stack outer).push ((rule.sets tag).getD (pile rule stack outer).top)

/-- The value in force is that of the innermost open tag that sets one. -/
theorem top_pile (rule : StackRule α) (stack : StyleStack α) (opened : List Tag) :
    (rule.pile stack opened).top = (opened.findSome? rule.sets).getD stack.top := by
  induction opened with
  | nil => rfl
  | cons tag outer ih =>
      rw [List.findSome?_cons]
      change (rule.sets tag).getD (rule.pile stack outer).top = _
      cases rule.sets tag with
      | none => exact ih
      | some value => rfl

/-- Behind tags that close no more than is open, a stack holds what the open ones have pushed. -/
theorem foldl_follow_eq_pile (rule : StackRule α) (stack : StyleStack α) {tags : List Tag}
    (sane : ∀ front, front <+: tags → closings rule.kind front ≤ openings rule.kind front)
    (known : ∀ tag ∈ tags, tag.name = rule.kind.tagName → tag.closing = false →
      rule.knows tag = true) :
    tags.foldl rule.follow stack = rule.pile stack (stillOpen rule.kind tags) := by
  -- By the last tag: what it does depends on what the tags before it have left open.
  induction tags using List.reverseRecOn with
  | nil => rfl
  | append_singleton tags tag ih =>
      have sane_inner : ∀ front, front <+: tags →
          closings rule.kind front ≤ openings rule.kind front :=
        fun front start => sane front (start.trans (List.prefix_append tags [tag]))
      have inner := ih sane_inner fun tag mem => known tag (List.mem_append_left _ mem)
      rw [List.foldl_append, inner, stillOpen_concat, nest]
      change rule.follow _ tag = _
      by_cases own : tag.name = rule.kind.tagName
      · rw [if_pos own]
        cases closing : tag.closing with
        | true =>
            -- The tag that closes has one to close, whose value is on top.
            rw [rule.follow_closing own closing, if_pos rfl]
            cases opened : stillOpen rule.kind tags with
            | nil =>
                have length_eq := length_stillOpen sane_inner
                have whole := sane _ List.prefix_rfl
                rw [opened, List.length_nil] at length_eq
                rw [openings_concat, closings_concat, if_pos ⟨own, closing⟩] at whole
                simp only [closing, reduceCtorEq, and_false, if_false] at whole
                omega
            | cons innermost outer => rfl
        | false =>
            have tag_known := known tag (List.mem_append_right _ List.mem_cons_self) own closing
            rw [rule.follow_known own closing tag_known, if_neg Bool.false_ne_true]
            rfl
      · rw [rule.follow_of_ne _ own, if_neg own]

end StackRule

/-- Whether the attributes that a tag can set are missing or have known values: the type of an
underline, the size and the colour of a font. -/
structure Tag.IsKnown (tag : Tag) : Prop where
  type : tag.name = "u".toList → tag.knowsType = true
  size : tag.name = "font".toList → tag.knows "size" TextSize.ofName? = true
  color : tag.name = "font".toList → tag.knows "color" TextColor.ofName? = true

instance (tag : Tag) : Decidable tag.IsKnown :=
  decidable_of_iff
    ((tag.name = "u".toList → tag.knowsType = true) ∧
      (tag.name = "font".toList → tag.knows "size" TextSize.ofName? = true) ∧
      (tag.name = "font".toList → tag.knows "color" TextColor.ofName? = true))
    ⟨fun h => ⟨h.1, h.2.1, h.2.2⟩, fun h => ⟨h.type, h.size, h.color⟩⟩

namespace Formatting

/-- Tags that never close more than they opened leave the values of the tags that are still open, on
top of what was there. -/
theorem followAll_eq_pile (state : Formatting) {tags : List Tag}
    (sane : ∀ kind front, front <+: tags → closings kind front ≤ openings kind front)
    (known : ∀ tag ∈ tags, tag.closing = false → tag.IsKnown) :
    state.followAll tags =
      ⟨StackRule.size.pile state.size (stillOpen .font tags),
        StackRule.color.pile state.color (stillOpen .font tags),
        StackRule.reverse.pile state.reverse (stillOpen .font tags),
        StackRule.weight.pile state.weight (stillOpen .bold tags),
        StackRule.underline.pile state.underline (stillOpen .underline tags),
        StackRule.doubleStrike.pile state.doubleStrike (stillOpen .underline tags)⟩ := by
  rw [followAll_eq,
    StackRule.size.foldl_follow_eq_pile _ (sane _) fun tag mem own opening =>
      (known tag mem opening).size own,
    StackRule.color.foldl_follow_eq_pile _ (sane _) fun tag mem own opening =>
      (known tag mem opening).color own,
    StackRule.reverse.foldl_follow_eq_pile _ (sane _) fun tag mem own opening =>
      (known tag mem opening).color own,
    StackRule.weight.foldl_follow_eq_pile _ (sane _) fun _ _ _ _ => rfl,
    StackRule.underline.foldl_follow_eq_pile _ (sane _) fun tag mem own opening =>
      (known tag mem opening).type own,
    StackRule.doubleStrike.foldl_follow_eq_pile _ (sane _) fun tag mem own opening =>
      (known tag mem opening).type own]
  rfl

/-- Balanced tags restore the state of formatting.  Take any tags of which the bold ones, the
underlines and the fonts are balanced, each kind for itself, and the opening ones have known values.
Behind all of them every stack is as it was.  Behind the first so many of them, text is bold exactly
if a bold tag is still open or it was bold before, and each of the size, the colour, the underline
and the double strike is what the innermost of the tags still open that sets it says, or what it was
before. -/
theorem balanced_tags_restore (state : Formatting) {tags : List Tag}
    (balanced : ∀ kind, Balanced kind tags)
    (known : ∀ tag ∈ tags, tag.closing = false → tag.IsKnown) :
    state.followAll tags = state ∧
      ∀ front, front <+: tags →
        let style := (state.followAll front).current
        let before := state.current
        let fonts := stillOpen .font front
        let underlines := stillOpen .underline front
        (style.weight = .bold ↔ stillOpen .bold front ≠ [] ∨ before.weight = .bold) ∧
          style.size = (fonts.findSome? StackRule.size.sets).getD before.size ∧
          style.color = (fonts.findSome? StackRule.color.sets).getD before.color ∧
          style.underline = (underlines.findSome? StackRule.underline.sets).getD before.underline ∧
          style.doubleStrike =
            (underlines.findSome? StackRule.doubleStrike.sets).getD before.doubleStrike := by
  have piled (front : List Tag) (start : front <+: tags) := state.followAll_eq_pile
    (fun kind part inner => (balanced kind).sane part (inner.trans start))
    fun tag mem => known tag (start.subset mem)
  refine ⟨?_, fun front start => ?_⟩
  · have closed (kind : FormatKind) : stillOpen kind tags = [] := (balanced kind).stillOpen_eq_nil
    rw [piled tags List.prefix_rfl, closed, closed, closed]
    rfl
  · rw [piled front start]
    refine ⟨?_, StackRule.top_pile _ _ _, StackRule.top_pile _ _ _, StackRule.top_pile _ _ _,
      StackRule.top_pile _ _ _⟩
    change (StackRule.weight.pile state.weight (stillOpen .bold front)).top = .bold ↔ _
    rw [StackRule.top_pile]
    -- Every bold tag sets the weight, so that the innermost one does.
    cases stillOpen .bold front with
    | nil => simp [current]
    | cons tag outer => simp [StackRule.weight]

/-- Tags that overlap, with one of another kind among them and a font that sets its size alone. -/
def overlapping : List Tag :=
  ["<b>", "<font size='big' color='red'>", "<u type='double'>", "<i>", "</b>", "<font size='tall'>",
    "<u>", "</font>", "</u>", "</font>", "</u>"].map (fun span => Tag.parse span.toList)

/-- Behind all of those tags underlined text is only underlined again, and behind the first five of
them it is big, red and struck twice, too, but no longer bold. -/
theorem balanced_tags_restore_overlapping :
    let underlined := initial.follow (Tag.parse "<u>".toList)
    let style := (underlined.followAll (overlapping.take 5)).current
    (∀ kind, Balanced kind overlapping) ∧
      (∀ tag ∈ overlapping, tag.closing = false → tag.IsKnown) ∧
      underlined.followAll overlapping = underlined ∧
      style.weight ≠ .bold ∧ style.size = .big ∧ style.color = .red ∧ style.underline = .thick ∧
      style.doubleStrike = .on := by
  intro underlined style
  have balanced : ∀ kind, Balanced kind overlapping := by
    intro kind
    cases kind <;> decide +kernel
  have known : ∀ tag ∈ overlapping, tag.closing = false → tag.IsKnown := by decide +kernel
  obtain ⟨restored, inside⟩ := balanced_tags_restore underlined balanced known
  obtain ⟨weight, size, color, underline, strike⟩ := inside _ (List.take_prefix 5 overlapping)
  exact ⟨balanced, known, restored, mt weight.mp (by decide +kernel),
    size.trans (by decide +kernel), color.trans (by decide +kernel),
    underline.trans (by decide +kernel), strike.trans (by decide +kernel)⟩

end Formatting

end Receipt.Markup
