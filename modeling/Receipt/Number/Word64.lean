/-!
# Words of 64 bits

Counts are kept in words of 64 bits.  A result that no word holds changes by a multiple of the
number of words until one does, so it starts anew at the other end.  A number that a word holds is
kept as it is.
-/

set_option autoImplicit false

namespace Receipt.Number

/-- A number as a word without a sign.  A small number is seen at once to be one. -/
def unsigned64 (n : Nat) : Nat :=
  if n < 4294967296 then n else n % 18446744073709551616

/-- A number as a word with a sign.  A small number is seen at once to be one. -/
def signed64 (n : Int) : Int :=
  if n.natAbs < 2147483648 then n else Int.bmod n 18446744073709551616

/-- A word without a sign is a remainder. -/
theorem unsigned64_eq_mod (n : Nat) : unsigned64 n = n % 18446744073709551616 := by
  unfold unsigned64
  split
  · exact (Nat.mod_eq_of_lt (by omega)).symm
  · rfl

/-- A word with a sign is a balanced remainder. -/
theorem signed64_eq_bmod (n : Int) : signed64 n = Int.bmod n 18446744073709551616 := by
  unfold signed64
  split
  · exact (Int.bmod_eq_of_le (by omega) (by omega)).symm
  · rfl

/-- A word without a sign stays as it is. -/
theorem unsigned64_of_lt {n : Nat} (fits : n < 18446744073709551616) : unsigned64 n = n := by
  rw [unsigned64_eq_mod, Nat.mod_eq_of_lt fits]

/-- A word with a sign stays as it is. -/
theorem signed64_of_range {n : Int} (low : -9223372036854775808 ≤ n)
    (high : n < 9223372036854775808) : signed64 n = n := by
  rw [signed64_eq_bmod, Int.bmod_eq_of_le (by omega) (by omega)]

/-- A word with a sign is the number changed by whole turns, and in range. -/
theorem exists_signed64_eq (n : Int) :
    ∃ turns, signed64 n = n + 18446744073709551616 * turns ∧
      -9223372036854775808 ≤ signed64 n ∧ signed64 n < 9223372036854775808 := by
  have low := Int.le_bmod (x := n) (show 0 < 18446744073709551616 by decide)
  have high := Int.bmod_lt (x := n) (show 0 < 18446744073709551616 by decide)
  have same := Int.bmod_emod (x := n) (m := 18446744073709551616)
  rw [signed64_eq_bmod]
  refine ⟨(Int.bmod n 18446744073709551616 - n) / 18446744073709551616, ?_⟩
  omega

end Receipt.Number
