import Mathlib.Data.Nat.Bitwise
import Receipt.Raster.Dots

/-!
# Dots and bits

The dots of a byte are its bits, the first dot being the highest bit.  A byte that was packed from
dots has these as its bits.
-/

set_option autoImplicit false

namespace Receipt.Dots

/-- The mask of a dot is one bit, the highest for the first dot. -/
theorem toNat_mask {position : Nat} (h : position < 8) :
    (mask position).toNat = 2 ^ (7 - position) := by
  have masks : ∀ position < 8, (mask position).toNat = 2 ^ (7 - position) := by decide
  exact masks position h

/-- A dot is black if its bit is set. -/
theorem test_eq_testBit (byte : UInt8) {position : Nat} (h : position < 8) :
    test byte position = byte.toNat.testBit (7 - position) := by
  rw [test, Bool.eq_iff_iff, bne_iff_ne, ne_eq, ← UInt8.toNat_inj, UInt8.toNat_and, toNat_mask h,
    Nat.and_two_pow]
  cases byte.toNat.testBit (7 - position) with
  | false => simp
  | true => simp

/-- Setting the bits of black dots one after the other leaves the bits that were set before, and
adds those of black dots among the positions. -/
theorem testBit_foldl_mask (dots : Nat → Bool) {positions : List Nat}
    (below : ∀ position ∈ positions, position < 8) (byte : UInt8) {k : Nat} (h : k < 8) :
    (positions.foldl (fun byte position => if dots position then byte ||| mask position else byte)
        byte).toNat.testBit (7 - k) =
      (byte.toNat.testBit (7 - k) || (positions.contains k && dots k)) := by
  induction positions generalizing byte with
  | nil => simp
  | cons position rest ih =>
      rw [List.forall_mem_cons] at below
      rw [List.foldl_cons, ih below.2, List.contains_cons]
      have bit : (if dots position then byte ||| mask position else byte).toNat.testBit (7 - k) =
          (byte.toNat.testBit (7 - k) || ((k == position) && dots k)) := by
        by_cases same : k = position
        · subst same
          cases dots k with
          | false => simp
          | true => simp [toNat_mask h, Nat.testBit_two_pow_self]
        · have apart : 7 - position ≠ 7 - k := by omega
          cases dots position with
          | false => simp [same]
          | true => simp [same, toNat_mask below.1, Nat.testBit_two_pow_of_ne apart]
      rw [bit]
      cases byte.toNat.testBit (7 - k) <;> cases k == position <;> cases rest.contains k <;>
        cases dots k <;> rfl

/-- A packed byte has the dots that it was packed from. -/
theorem testBit_packByte (dots : Nat → Bool) {k : Nat} (h : k < 8) :
    (packByte dots).toNat.testBit (7 - k) = dots k := by
  have packed := testBit_foldl_mask dots (fun _ mem => List.mem_range.mp mem) 0 h
  rw [packByte, packed]
  simp [h]

end Receipt.Dots
