import Receipt.Markup.Tag
import Receipt.Style
import Receipt.Style.Stack

/-!
# The state of formatting

Every attribute of text has a stack of its own, and the style in force is made of their tops.  A tag
that opens pushes onto the stacks it governs and its closing tag pops the same stacks, so that the
stacks of one tag move together even when only one of the values changes.
-/

set_option autoImplicit false

namespace Receipt.Markup

/-- The stacks of the six attributes of text. -/
structure Formatting where
  size : StyleStack TextSize
  color : StyleStack TextColor
  reverse : StyleStack Reverse
  weight : StyleStack Weight
  underline : StyleStack Underline
  doubleStrike : StyleStack DoubleStrike
  deriving DecidableEq, Repr

namespace Formatting

/-- The state at the start of a document. -/
def initial : Formatting :=
  ⟨.single .normal, .single .black, .single .off, .single .normal, .single .off, .single .off⟩

/-- The style in force. -/
def current (state : Formatting) : TextStyle :=
  ⟨state.size.top, state.color.top, state.reverse.top, state.weight.top, state.underline.top,
    state.doubleStrike.top⟩

/-- Begin bold text. -/
def openBold (state : Formatting) : Formatting :=
  { state with weight := state.weight.push .bold }

/-- End bold text. -/
def closeBold (state : Formatting) : Formatting :=
  { state with weight := state.weight.pop }

/-- Begin underlined or doubly struck text; an unknown type changes nothing. -/
def openUnderline (state : Formatting) (type : Option (List Char)) : Formatting :=
  let name := type.getD "normal".toList
  if name = "normal".toList then
    { state with
      underline := state.underline.push .thick
      doubleStrike := state.doubleStrike.repeatTop }
  else if name = "double".toList then
    { state with
      underline := state.underline.repeatTop
      doubleStrike := state.doubleStrike.push .on }
  else state

/-- End underlined or doubly struck text. -/
def closeUnderline (state : Formatting) : Formatting :=
  { state with
    underline := state.underline.pop
    doubleStrike := state.doubleStrike.pop }

/-- Take the size of a font tag; a missing size keeps the one in force and an unknown one is
ignored. -/
def openSize (state : Formatting) (size : Option (List Char)) : Formatting :=
  match size with
  | none => { state with size := state.size.repeatTop }
  | some name =>
    match TextSize.ofName? name with
    | some value => { state with size := state.size.push value }
    | none => state

/-- Take the colour of a font tag, which is never in reverse; a missing colour keeps both and an
unknown one is ignored. -/
def openColor (state : Formatting) (color : Option (List Char)) : Formatting :=
  match color with
  | none =>
    { state with color := state.color.repeatTop, reverse := state.reverse.repeatTop }
  | some name =>
    match TextColor.ofName? name with
    | some value =>
      { state with color := state.color.push value, reverse := state.reverse.push .off }
    | none => state

/-- End the text of a font tag. -/
def closeFont (state : Formatting) : Formatting :=
  { state with
    size := state.size.pop
    color := state.color.pop
    reverse := state.reverse.pop }

/-- The names of the tags that format text. -/
def tagNames : List (List Char) :=
  ["b".toList, "u".toList, "font".toList]

/-- The state behind a tag, or nothing for a tag that formats no text. -/
def follow? (state : Formatting) (tag : Tag) : Option Formatting :=
  if tag.name = "b".toList then
    some (if tag.closing then state.closeBold else state.openBold)
  else if tag.name = "u".toList then
    some (if tag.closing then state.closeUnderline
      else state.openUnderline (tag.attributes.get? "type"))
  else if tag.name = "font".toList then
    some (if tag.closing then state.closeFont
      else (state.openSize (tag.attributes.get? "size")).openColor (tag.attributes.get? "color"))
  else none

/-- Only tags of the listed names format text. -/
theorem follow?_eq_none (state : Formatting) {tag : Tag} (h : tag.name ∉ tagNames) :
    state.follow? tag = none := by
  simp only [tagNames, List.mem_cons, List.not_mem_nil, or_false, not_or] at h
  rw [follow?, if_neg h.1, if_neg h.2.1, if_neg h.2.2]

end Formatting

end Receipt.Markup
