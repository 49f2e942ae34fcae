import Receipt.Proofs.Markup.Pieces

/-!
# What tags do to the stacks of formatting

Every stack is moved by the tags of one kind.  A closing tag pops it.  An opening tag pushes the value
that it sets, or, if it sets none, the value in force once more; an opening tag with an unknown value
does nothing.  The stacks of the underline and of the double strike take the same tags to be known,
and so do those of the colour and of the reverse, so that they are equally deep behind any tags,
balanced or not.
-/

set_option autoImplicit false

namespace Receipt

namespace StyleStack

variable {α : Type}

/-- A stack always has a value. -/
theorem toList_ne_nil (stack : StyleStack α) : stack.toList ≠ [] :=
  List.cons_ne_nil _ _

/-- A push leaves the lowest value as it is. -/
theorem getLast?_push (stack : StyleStack α) (value : α) :
    (stack.push value).toList.getLast? = stack.toList.getLast? := by
  rw [toList_push, List.getLast?_cons_of_ne_nil stack.toList_ne_nil]

/-- No pop removes the value at the bottom. -/
theorem getLast?_pop (stack : StyleStack α) :
    stack.pop.toList.getLast? = stack.toList.getLast? := by
  obtain ⟨top, below⟩ := stack
  cases below with
  | nil => rfl
  | cons next rest => exact (List.getLast?_cons_of_ne_nil (List.cons_ne_nil next rest)).symm

/-- A pop brings no new values. -/
theorem mem_of_mem_pop {stack : StyleStack α} {value : α} (held : value ∈ stack.pop.toList) :
    value ∈ stack.toList := by
  obtain ⟨top, below⟩ := stack
  cases below with
  | nil => exact held
  | cons next rest => exact List.mem_cons_of_mem top held

/-- Stacks of one depth stay so when both are popped. -/
theorem depth_pop_eq {β : Type} {stack : StyleStack α} {other : StyleStack β}
    (same : stack.depth = other.depth) : stack.pop.depth = other.pop.depth := by
  obtain ⟨top, below⟩ := stack
  obtain ⟨otherTop, otherBelow⟩ := other
  cases below with
  | nil =>
      cases otherBelow with
      | nil => rfl
      | cons next rest => simp [toList] at same
  | cons next rest =>
      cases otherBelow with
      | nil => simp [toList] at same
      | cons otherNext otherRest => simpa [toList, pop] using same

end StyleStack

namespace Markup

/-- The kinds of tags that format text. -/
inductive FormatKind where
  | bold
  | underline
  | font
  deriving DecidableEq, Repr

/-- The name of the tags of a kind. -/
def FormatKind.tagName : FormatKind → List Char
  | bold => "b".toList
  | underline => "u".toList
  | font => "font".toList

/-- How the tags of one kind move one stack: which opening tags are known, and the value that such a
tag sets, if it sets one. -/
structure StackRule (α : Type) where
  kind : FormatKind
  knows : Tag → Bool
  sets : Tag → Option α

namespace StackRule

variable {α : Type}

/-- A stack behind a tag. -/
def follow (rule : StackRule α) (stack : StyleStack α) (tag : Tag) : StyleStack α :=
  if tag.name = rule.kind.tagName then
    if tag.closing then stack.pop
    else if rule.knows tag then stack.push ((rule.sets tag).getD stack.top)
    else stack
  else stack

/-- A tag of another kind leaves a stack as it is. -/
theorem follow_of_ne (rule : StackRule α) (stack : StyleStack α) {tag : Tag}
    (other : tag.name ≠ rule.kind.tagName) : rule.follow stack tag = stack :=
  if_neg other

section

variable (rule : StackRule α) {tag : Tag}

/-- A closing tag pops its stacks. -/
theorem follow_closing (kind : tag.name = rule.kind.tagName) (closing : tag.closing = true)
    (stack : StyleStack α) : rule.follow stack tag = stack.pop := by
  rw [follow, if_pos kind, if_pos closing]

/-- An opening tag with a known value pushes it, or the top once more if it has none. -/
theorem follow_known (kind : tag.name = rule.kind.tagName) (opening : tag.closing = false)
    (known : rule.knows tag = true) (stack : StyleStack α) :
    rule.follow stack tag = stack.push ((rule.sets tag).getD stack.top) := by
  rw [follow, if_pos kind, opening, if_neg Bool.false_ne_true, if_pos known]

/-- An opening tag with an unknown value leaves a stack as it is. -/
theorem follow_unknown (opening : tag.closing = false) (unknown : rule.knows tag = false)
    (stack : StyleStack α) : rule.follow stack tag = stack := by
  rw [follow, opening, unknown, if_neg Bool.false_ne_true, if_neg Bool.false_ne_true, ite_self]

end

/-- No tag removes the lowest value. -/
theorem getLast?_follow (rule : StackRule α) (stack : StyleStack α) (tag : Tag) :
    (rule.follow stack tag).toList.getLast? = stack.toList.getLast? := by
  unfold follow
  split
  · split
    · exact stack.getLast?_pop
    · split
      · exact stack.getLast?_push _
      · rfl
  · rfl

/-- A tag brings nothing onto a stack but the value that it sets. -/
theorem mem_of_mem_follow {rule : StackRule α} {stack : StyleStack α} {tag : Tag} {value : α}
    (held : value ∈ (rule.follow stack tag).toList) :
    value ∈ stack.toList ∨ rule.sets tag = some value := by
  unfold follow at held
  split at held
  · split at held
    · exact .inl (StyleStack.mem_of_mem_pop held)
    · split at held
      · rw [StyleStack.toList_push, List.mem_cons] at held
        rcases held with pushed | below
        -- A tag that sets no value has pushed one that the stack held before.
        · cases set : rule.sets tag with
          | none =>
              rw [set] at pushed
              exact .inl (pushed ▸ List.mem_cons_self)
          | some new =>
              rw [set] at pushed
              exact .inr (congrArg some pushed.symm)
        · exact .inl below
      · exact .inl held
  · exact .inl held

/-- Two stacks that the same tags move stay equally deep. -/
theorem depth_follow_eq {β : Type} (rule : StackRule α) (other : StackRule β)
    (kind : rule.kind = other.kind) (knows : rule.knows = other.knows) {stack : StyleStack α}
    {otherStack : StyleStack β} (same : stack.depth = otherStack.depth) (tag : Tag) :
    (rule.follow stack tag).depth = (other.follow otherStack tag).depth := by
  unfold follow
  rw [kind, knows]
  split
  · split
    · exact StyleStack.depth_pop_eq same
    · split
      · simpa using same
      · exact same
  · exact same

end StackRule

namespace Tag

/-- The type of an underline, which is normal when it is missing. -/
def underlineType (tag : Tag) : List Char :=
  (tag.attributes.get? "type").getD "normal".toList

/-- Whether the type of an underline is known. -/
def knowsType (tag : Tag) : Bool :=
  tag.underlineType == "normal".toList || tag.underlineType == "double".toList

/-- Whether the value of a key is missing or can be read. -/
def knows {α : Type} (key : String) (read : List Char → Option α) (tag : Tag) : Bool :=
  (tag.attributes.get? key).all (fun name => (read name).isSome)

/-- The value that a key sets. -/
def reads {α : Type} (key : String) (read : List Char → Option α) (tag : Tag) : Option α :=
  (tag.attributes.get? key).bind read

section

variable {α : Type} {key : String} (read : List Char → Option α) {tag : Tag}

/-- A tag without the attribute is known. -/
theorem knows_of_none (missing : tag.attributes.get? key = none) :
    knows key read tag = true := by
  rw [knows, missing, Option.all_none]

/-- A tag without the attribute sets nothing. -/
theorem reads_of_none (missing : tag.attributes.get? key = none) : reads key read tag = none := by
  rw [reads, missing, Option.bind_none]

variable {name : List Char}

/-- A tag with the attribute is known if its value can be read. -/
theorem knows_of_some (held : tag.attributes.get? key = some name) :
    knows key read tag = (read name).isSome := by
  rw [knows, held, Option.all_some]

/-- A tag with the attribute sets what its value is read as. -/
theorem reads_of_some (held : tag.attributes.get? key = some name) :
    reads key read tag = read name := by
  rw [reads, held, Option.bind_some]

end

end Tag

namespace StackRule

/-- A font tag sets the size that it names. -/
def size : StackRule TextSize :=
  ⟨.font, Tag.knows "size" TextSize.ofName?, Tag.reads "size" TextSize.ofName?⟩

/-- A font tag sets the colour that it names. -/
def color : StackRule TextColor :=
  ⟨.font, Tag.knows "color" TextColor.ofName?, Tag.reads "color" TextColor.ofName?⟩

/-- A font tag that names a colour turns reverse off. -/
def reverse : StackRule Reverse :=
  ⟨.font, Tag.knows "color" TextColor.ofName?,
    fun tag => (Tag.reads "color" TextColor.ofName? tag).map (fun _ => .off)⟩

/-- A bold tag sets the weight. -/
def weight : StackRule Weight :=
  ⟨.bold, fun _ => true, fun _ => some .bold⟩

/-- An underline of the normal type sets a thick line. -/
def underline : StackRule Underline :=
  ⟨.underline, Tag.knowsType,
    fun tag => if tag.underlineType = "normal".toList then some .thick else none⟩

/-- An underline of the double type sets the double strike. -/
def doubleStrike : StackRule DoubleStrike :=
  ⟨.underline, Tag.knowsType,
    fun tag => if tag.underlineType = "double".toList then some .on else none⟩

end StackRule

namespace Formatting

/-- The state behind a tag; a tag that formats no text leaves it as it is. -/
def follow (state : Formatting) (tag : Tag) : Formatting :=
  (state.follow? tag).getD state

/-- The state behind tags, one after the other. -/
def followAll (state : Formatting) (tags : List Tag) : Formatting :=
  tags.foldl follow state

section

variable {tag : Tag}

/-- An underline pushes onto both of its stacks or onto none. -/
theorem openUnderline_eq (state : Formatting) (name : tag.name = "u".toList)
    (opening : tag.closing = false) :
    state.openUnderline (tag.attributes.get? "type") =
      { state with
        underline := StackRule.underline.follow state.underline tag
        doubleStrike := StackRule.doubleStrike.follow state.doubleStrike tag } := by
  have type_eq : (tag.attributes.get? "type").getD "normal".toList = tag.underlineType := rfl
  rw [openUnderline, type_eq]
  by_cases normal : tag.underlineType = "normal".toList
  · have known : tag.knowsType = true := by rw [Tag.knowsType, normal]; rfl
    have line : StackRule.underline.sets tag = some .thick := if_pos normal
    have strike : StackRule.doubleStrike.sets tag = none := if_neg (by rw [normal]; decide)
    rw [if_pos normal, StackRule.underline.follow_known name opening known, line,
      StackRule.doubleStrike.follow_known name opening known, strike]
    rfl
  · by_cases double : tag.underlineType = "double".toList
    · have known : tag.knowsType = true := by rw [Tag.knowsType, double]; rfl
      have line : StackRule.underline.sets tag = none := if_neg normal
      have strike : StackRule.doubleStrike.sets tag = some .on := if_pos double
      rw [if_neg normal, if_pos double, StackRule.underline.follow_known name opening known, line,
        StackRule.doubleStrike.follow_known name opening known, strike]
      rfl
    · have unknown : tag.knowsType = false := by
        simp only [Tag.knowsType, Bool.or_eq_false_iff, beq_eq_false_iff_ne]
        exact ⟨normal, double⟩
      rw [if_neg normal, if_neg double, StackRule.underline.follow_unknown opening unknown,
        StackRule.doubleStrike.follow_unknown opening unknown]

/-- A font tag pushes the size that it names, the size in force, or nothing. -/
theorem openSize_eq (state : Formatting) (name : tag.name = "font".toList)
    (opening : tag.closing = false) :
    state.openSize (tag.attributes.get? "size") =
      { state with size := StackRule.size.follow state.size tag } := by
  cases held : tag.attributes.get? "size" with
  | none =>
      have known : StackRule.size.knows tag = true := Tag.knows_of_none _ held
      have none_set : StackRule.size.sets tag = none := Tag.reads_of_none _ held
      rw [StackRule.size.follow_known name opening known, none_set]
      rfl
  | some named =>
      have knows : StackRule.size.knows tag = (TextSize.ofName? named).isSome :=
        Tag.knows_of_some _ held
      have sets : StackRule.size.sets tag = TextSize.ofName? named := Tag.reads_of_some _ held
      cases value : TextSize.ofName? named with
      | none =>
          rw [value] at knows
          simp only [openSize, value, StackRule.size.follow_unknown opening knows]
      | some size =>
          rw [value] at knows sets
          simp only [openSize, value, StackRule.size.follow_known name opening knows, sets,
            Option.getD_some]

/-- A font tag pushes a colour together with the reverse, or neither. -/
theorem openColor_eq (state : Formatting) (name : tag.name = "font".toList)
    (opening : tag.closing = false) :
    state.openColor (tag.attributes.get? "color") =
      { state with
        color := StackRule.color.follow state.color tag
        reverse := StackRule.reverse.follow state.reverse tag } := by
  have same_known : StackRule.reverse.knows tag = StackRule.color.knows tag := rfl
  have same_set : StackRule.reverse.sets tag = (StackRule.color.sets tag).map (fun _ => .off) := rfl
  cases held : tag.attributes.get? "color" with
  | none =>
      have known : StackRule.color.knows tag = true := Tag.knows_of_none _ held
      have none_set : StackRule.color.sets tag = none := Tag.reads_of_none _ held
      rw [StackRule.color.follow_known name opening known, none_set,
        StackRule.reverse.follow_known name opening (same_known.trans known), same_set, none_set]
      rfl
  | some named =>
      have knows : StackRule.color.knows tag = (TextColor.ofName? named).isSome :=
        Tag.knows_of_some _ held
      have sets : StackRule.color.sets tag = TextColor.ofName? named := Tag.reads_of_some _ held
      cases value : TextColor.ofName? named with
      | none =>
          rw [value] at knows
          rw [StackRule.color.follow_unknown opening knows,
            StackRule.reverse.follow_unknown opening (same_known.trans knows)]
          simp only [openColor, value]
      | some color =>
          rw [value] at knows sets
          rw [StackRule.color.follow_known name opening knows, sets,
            StackRule.reverse.follow_known name opening (same_known.trans knows), same_set, sets]
          simp only [openColor, value, Option.map_some, Option.getD_some]

end

/-- Each stack moves by its own rule. -/
theorem follow_eq (state : Formatting) (tag : Tag) :
    state.follow tag =
      ⟨StackRule.size.follow state.size tag, StackRule.color.follow state.color tag,
        StackRule.reverse.follow state.reverse tag, StackRule.weight.follow state.weight tag,
        StackRule.underline.follow state.underline tag,
        StackRule.doubleStrike.follow state.doubleStrike tag⟩ := by
  -- The names of the kinds are all different, so that the rules of two kinds leave their stacks
  -- alone.
  by_cases bold : tag.name = "b".toList
  · have not_underline : tag.name ≠ "u".toList := by rw [bold]; decide
    have not_font : tag.name ≠ "font".toList := by rw [bold]; decide
    have followed : state.follow? tag =
        some (if tag.closing then state.closeBold else state.openBold) := if_pos bold
    rw [follow, followed, StackRule.size.follow_of_ne _ not_font,
      StackRule.color.follow_of_ne _ not_font, StackRule.reverse.follow_of_ne _ not_font,
      StackRule.underline.follow_of_ne _ not_underline,
      StackRule.doubleStrike.follow_of_ne _ not_underline]
    cases closing : tag.closing with
    | true =>
        rw [StackRule.weight.follow_closing bold closing]
        rfl
    | false =>
        rw [StackRule.weight.follow_known bold closing rfl]
        rfl
  · by_cases underline : tag.name = "u".toList
    · have not_font : tag.name ≠ "font".toList := by rw [underline]; decide
      have followed : state.follow? tag =
          some (if tag.closing then state.closeUnderline
            else state.openUnderline (tag.attributes.get? "type")) := by
        rw [follow?, if_neg bold, if_pos underline]
      rw [follow, followed, StackRule.size.follow_of_ne _ not_font,
        StackRule.color.follow_of_ne _ not_font, StackRule.reverse.follow_of_ne _ not_font,
        StackRule.weight.follow_of_ne _ bold]
      cases closing : tag.closing with
      | true =>
          rw [StackRule.underline.follow_closing underline closing,
            StackRule.doubleStrike.follow_closing underline closing]
          rfl
      | false => exact state.openUnderline_eq underline closing
    · by_cases font : tag.name = "font".toList
      · have followed : state.follow? tag =
            some (if tag.closing then state.closeFont
              else (state.openSize (tag.attributes.get? "size")).openColor
                (tag.attributes.get? "color")) := by
          rw [follow?, if_neg bold, if_neg underline, if_pos font]
        rw [follow, followed, StackRule.weight.follow_of_ne _ bold,
          StackRule.underline.follow_of_ne _ underline,
          StackRule.doubleStrike.follow_of_ne _ underline]
        cases closing : tag.closing with
        | true =>
            rw [StackRule.size.follow_closing font closing,
              StackRule.color.follow_closing font closing,
              StackRule.reverse.follow_closing font closing]
            rfl
        | false =>
            change (state.openSize _).openColor _ = _
            rw [openSize_eq _ font closing, openColor_eq _ font closing]
      · have unlisted : state.follow? tag = none := by
          rw [follow?, if_neg bold, if_neg underline, if_neg font]
        rw [follow, unlisted, StackRule.size.follow_of_ne _ font,
          StackRule.color.follow_of_ne _ font, StackRule.reverse.follow_of_ne _ font,
          StackRule.weight.follow_of_ne _ bold, StackRule.underline.follow_of_ne _ underline,
          StackRule.doubleStrike.follow_of_ne _ underline]
        rfl

/-- Each stack follows the tags by its own rule. -/
theorem followAll_eq (state : Formatting) (tags : List Tag) :
    state.followAll tags =
      ⟨tags.foldl StackRule.size.follow state.size, tags.foldl StackRule.color.follow state.color,
        tags.foldl StackRule.reverse.follow state.reverse,
        tags.foldl StackRule.weight.follow state.weight,
        tags.foldl StackRule.underline.follow state.underline,
        tags.foldl StackRule.doubleStrike.follow state.doubleStrike⟩ := by
  induction tags generalizing state with
  | nil => rfl
  | cons tag rest ih =>
      change (state.follow tag).followAll rest = _
      rw [ih, follow_eq]
      rfl

/-- What all states of formatting behind tags have in common.  Every stack has its first value at its
bottom, stacks that the same tags move are equally deep, nothing is in reverse and no line is thin. -/
structure InStep (state : Formatting) : Prop where
  size_bottom : state.size.toList.getLast? = some .normal
  color_bottom : state.color.toList.getLast? = some .black
  reverse_bottom : state.reverse.toList.getLast? = some .off
  weight_bottom : state.weight.toList.getLast? = some .normal
  underline_bottom : state.underline.toList.getLast? = some .off
  doubleStrike_bottom : state.doubleStrike.toList.getLast? = some .off
  underline_depth : state.underline.depth = state.doubleStrike.depth
  color_depth : state.color.depth = state.reverse.depth
  reverse_off : ∀ value ∈ state.reverse.toList, value = .off
  underline_not_thin : ∀ value ∈ state.underline.toList, value ≠ .thin

/-- The state at the start of a document is in step. -/
theorem inStep_initial : initial.InStep := by
  constructor <;> decide

/-- A tag leaves the stacks in step. -/
theorem InStep.follow {state : Formatting} (h : state.InStep) (tag : Tag) :
    (state.follow tag).InStep := by
  rw [follow_eq]
  constructor
  case size_bottom => exact (StackRule.getLast?_follow _ _ tag).trans h.size_bottom
  case color_bottom => exact (StackRule.getLast?_follow _ _ tag).trans h.color_bottom
  case reverse_bottom => exact (StackRule.getLast?_follow _ _ tag).trans h.reverse_bottom
  case weight_bottom => exact (StackRule.getLast?_follow _ _ tag).trans h.weight_bottom
  case underline_bottom => exact (StackRule.getLast?_follow _ _ tag).trans h.underline_bottom
  case doubleStrike_bottom => exact (StackRule.getLast?_follow _ _ tag).trans h.doubleStrike_bottom
  case underline_depth =>
    exact StackRule.underline.depth_follow_eq .doubleStrike rfl rfl h.underline_depth tag
  case color_depth => exact StackRule.color.depth_follow_eq .reverse rfl rfl h.color_depth tag
  case reverse_off =>
    intro value held
    rcases StackRule.mem_of_mem_follow held with below | set
    · exact h.reverse_off value below
    · obtain ⟨_, -, rfl⟩ := Option.map_eq_some_iff.mp set
      rfl
  case underline_not_thin =>
    intro value held
    rcases StackRule.mem_of_mem_follow held with below | set
    · exact h.underline_not_thin value below
    · rw [StackRule.underline, Option.ite_none_right_eq_some] at set
      rw [← Option.some.inj set.2]
      decide

/-- Tags leave the stacks in step. -/
theorem InStep.followAll {state : Formatting} (h : state.InStep) (tags : List Tag) :
    (state.followAll tags).InStep := by
  induction tags generalizing state with
  | nil => exact h
  | cons tag rest ih => exact ih (h.follow tag)

/-- The stacks of formatting stay in step.  Behind any tags, whether they are balanced or not and
whatever their attributes are, every stack has its first value at its bottom, the stacks that move
together are equally deep, nothing is in reverse and no line is thin.  A tag is one that formats text
exactly if it has one of the three names, and any other tag leaves all stacks as they are.  Only a
font tag moves the stacks of the size, the colour and the reverse, only a bold tag that of the
weight, and only an underline those of the underline and the double strike; each moves by its own
rule. -/
theorem stacks_in_step :
    (∀ tags, (initial.followAll tags).InStep) ∧
      ∀ (state : Formatting) (tag : Tag),
        ((state.follow? tag).isSome = true ↔ tag.name ∈ tagNames) ∧
        (tag.name ∉ tagNames → state.follow tag = state) ∧
        (tag.name ≠ "font".toList →
          (state.follow tag).size = state.size ∧ (state.follow tag).color = state.color ∧
            (state.follow tag).reverse = state.reverse) ∧
        (tag.name ≠ "b".toList → (state.follow tag).weight = state.weight) ∧
        (tag.name ≠ "u".toList →
          (state.follow tag).underline = state.underline ∧
            (state.follow tag).doubleStrike = state.doubleStrike) ∧
        state.follow tag =
          ⟨StackRule.size.follow state.size tag, StackRule.color.follow state.color tag,
            StackRule.reverse.follow state.reverse tag, StackRule.weight.follow state.weight tag,
            StackRule.underline.follow state.underline tag,
            StackRule.doubleStrike.follow state.doubleStrike tag⟩ := by
  refine ⟨inStep_initial.followAll, fun state tag => ⟨?_, ?_, ?_, ?_, ?_, state.follow_eq tag⟩⟩
  · constructor
    · intro followed
      by_contra unlisted
      rw [follow?_eq_none state unlisted] at followed
      cases followed
    · intro listed
      obtain ⟨next, followed⟩ := state.exists_follow? listed
      rw [followed]
      rfl
  · intro unlisted
    rw [follow, follow?_eq_none state unlisted, Option.getD_none]
  · intro other
    rw [follow_eq]
    exact ⟨StackRule.size.follow_of_ne _ other, StackRule.color.follow_of_ne _ other,
      StackRule.reverse.follow_of_ne _ other⟩
  · intro other
    rw [follow_eq]
    exact StackRule.weight.follow_of_ne _ other
  · intro other
    rw [follow_eq]
    exact ⟨StackRule.underline.follow_of_ne _ other, StackRule.doubleStrike.follow_of_ne _ other⟩

/-- Tags that are out of balance, some of them with unknown values: a colour is pushed without a size,
so that one of the two closing fonts finds the stack of the size at its bottom. -/
def unbalanced : List Tag :=
  ["</u>", "<u type='wavy'>", "<u type='double'>", "</b>", "<font size='huge' color='bg-red'>",
    "<font>", "</font>", "</font>", "<b>", "<font color='red'>"].map
      (fun span => Tag.parse span.toList)

/-- Behind those tags the stacks are in step, an image tag changes none of them, and a closing bold
only that of the weight. -/
theorem stacks_in_step_unbalanced :
    let state := initial.followAll unbalanced
    let image := Tag.parse "<img>".toList
    let closing := Tag.parse "</b>".toList
    state.InStep ∧ state.underline.depth = 2 ∧ state.color.depth = 2 ∧ state.size.depth = 2 ∧
      image.name ∉ tagNames ∧ state.follow image = state ∧
      closing.name ≠ "font".toList ∧ (state.follow closing).size = state.size ∧
      closing.name ≠ "u".toList ∧ (state.follow closing).underline = state.underline ∧
      image.name ≠ "b".toList ∧ (state.follow image).weight = state.weight ∧
      (state.follow closing).weight ≠ state.weight := by
  intro state image closing
  obtain ⟨in_step, moves⟩ := stacks_in_step
  have unlisted : image.name ∉ tagNames := by decide +kernel
  have no_font : closing.name ≠ "font".toList := by decide +kernel
  have no_underline : closing.name ≠ "u".toList := by decide +kernel
  have no_bold : image.name ≠ "b".toList := by decide +kernel
  obtain ⟨-, image_kept, -, image_weight, -⟩ := moves state image
  obtain ⟨-, -, closing_size, -, closing_underline, -⟩ := moves state closing
  exact ⟨in_step unbalanced, by decide +kernel, by decide +kernel, by decide +kernel, unlisted,
    image_kept unlisted, no_font, (closing_size no_font).1, no_underline,
    (closing_underline no_underline).1, no_bold, image_weight no_bold, by decide +kernel⟩

end Formatting

end Markup

end Receipt
