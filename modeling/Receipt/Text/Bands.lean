/-!
# Sets of characters as bands

A set of code points is written as the increasing list of the code points at which membership
changes: below the first one nothing belongs, from the first to the second everything does, and so
on.  A code point belongs when an odd number of changes lies at or below it.
-/

set_option autoImplicit false

namespace Receipt.Text

/-- How many changes lie at or below a code point: at least `low`, because those before `low` do,
and at most `high`, because those from `high` on do not.  The gap is halved at most `fuel`
times. -/
def changesUpTo (changes : Array Nat) (code : Nat) : (fuel low high : Nat) → Nat
  | 0, low, _ => low
  | fuel + 1, low, high =>
    let middle := (low + high) / 2
    if high ≤ low then low
    else if changes.getD middle 0 ≤ code then changesUpTo changes code fuel (middle + 1) high
    else changesUpTo changes code fuel low middle

/-- Whether a code point belongs to the set with the given changes of membership. -/
def inBands (changes : Array Nat) (code : Nat) : Bool :=
  changesUpTo changes code (changes.size.log2 + 1) 0 changes.size % 2 == 1

end Receipt.Text
