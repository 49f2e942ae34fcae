/-!
# Stacks that never empty

A stack of values with a value at its bottom that no pop removes, so that a pop too many falls back
to the bottom instead of failing.
-/

set_option autoImplicit false

namespace Receipt

/-- A stack with at least one value: the top one and those below it, the next one first. -/
structure StyleStack (α : Type) where
  top : α
  below : List α
  deriving DecidableEq, Repr

namespace StyleStack

variable {α : Type}

/-- The stack that holds one value. -/
def single (bottom : α) : StyleStack α :=
  ⟨bottom, []⟩

/-- The values of a stack, the top one first. -/
def toList (stack : StyleStack α) : List α :=
  stack.top :: stack.below

/-- How many values a stack holds. -/
def depth (stack : StyleStack α) : Nat :=
  stack.below.length + 1

/-- The stack with one more value on top. -/
def push (stack : StyleStack α) (value : α) : StyleStack α :=
  ⟨value, stack.top :: stack.below⟩

/-- The stack with its top value once more on top, so that a later pop has a value to remove. -/
def repeatTop (stack : StyleStack α) : StyleStack α :=
  stack.push stack.top

/-- The stack without its top value; the last value stays. -/
def pop (stack : StyleStack α) : StyleStack α :=
  match stack.below with
  | [] => stack
  | next :: rest => ⟨next, rest⟩

/-- A stack of one value has just this one. -/
@[simp] theorem toList_single (bottom : α) : (single bottom).toList = [bottom] :=
  rfl

/-- A pushed value stands on top. -/
@[simp] theorem toList_push (stack : StyleStack α) (value : α) :
    (stack.push value).toList = value :: stack.toList :=
  rfl

/-- The depth is the number of values. -/
@[simp] theorem depth_eq_length_toList (stack : StyleStack α) :
    stack.depth = stack.toList.length :=
  rfl

/-- A pop takes back a push. -/
@[simp] theorem pop_push (stack : StyleStack α) (value : α) : (stack.push value).pop = stack :=
  rfl

/-- The last value stays. -/
@[simp] theorem pop_single (bottom : α) : (single bottom).pop = single bottom :=
  rfl

end StyleStack

end Receipt
