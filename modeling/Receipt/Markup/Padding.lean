import Receipt.Number.Word64
import Receipt.Style

/-!
# Padding

The characters of a line are shared among its columns, the remainder going to the first ones, one
character each.  A column pads its content on both sides as its alignment says.  A column that its
content overflows leaves the excess to the next one, which takes it out of its left padding but
keeps at least one space in front, and leaves to the next what it cannot take itself.  All counts
are words of 64 bits with a sign.
-/

set_option autoImplicit false

namespace Receipt.Markup

/-- What the columns of a line leave to those behind them: the characters of the remainder still to
be given out, and the excess of the columns before, as a negative number. -/
structure Carry where
  owed : Int
  overflow : Int
  deriving DecidableEq, Repr, Inhabited

/-- The spaces on both sides of a column's content. -/
structure Padding where
  left : Nat
  right : Nat
  deriving DecidableEq, Repr, Inhabited

namespace Padding

/-- The free characters on the left as the alignment says, the smaller half at the centre. -/
def freeLeft (alignment : Alignment) (free : Int) : Int :=
  match alignment with
  | .left => 0
  | .center => free.tdiv 2
  | .right => free

/-- The padding of a column and what it leaves to the next one. -/
def distribute (alignment : Alignment) (columnWidth contentWidth : Int) (carry : Carry) :
    Padding × Carry :=
  let free := Number.signed64 (columnWidth - contentWidth)
  let extra := if 0 < carry.owed then 1 else 0
  let before := freeLeft alignment free
  let behind := Number.signed64 (free - before + extra)
  let late := carry.overflow < 0
  let moved := Number.signed64 (before + carry.overflow)
  let left := if late then max moved 1 else before
  let right := if late then Number.signed64 (behind + min (moved - 1) 0) else behind
  let kept := if late then 0 else carry.overflow
  (⟨left.toNat, right.toNat⟩,
    ⟨carry.owed - extra, Number.signed64 (kept + min left 0 + min right 0)⟩)

end Padding

end Receipt.Markup
