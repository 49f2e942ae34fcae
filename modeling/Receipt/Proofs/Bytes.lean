import Receipt.Bytes

/-!
# Bytes of an announced length

Where a command announces the length of what follows it, a reader takes exactly so many bytes and
goes on behind them.
-/

set_option autoImplicit false

namespace Receipt.Bytes

variable {size : Nat} {bytes taken rest : List UInt8}

/-- Two bytes make a number of 16 bits. -/
theorem wordValue_lt (low high : UInt8) : wordValue low high < 65536 := by
  have low_lt := low.toNat_lt
  have high_lt := high.toNat_lt
  unfold wordValue
  omega

/-- Two bytes are those of the number that they write. -/
theorem word_wordValue (low high : UInt8) : word (wordValue low high) = [low, high] := by
  have low_lt := low.toNat_lt
  have first : UInt8.ofNat (wordValue low high) = low := by
    apply UInt8.toNat_inj.mp
    rw [UInt8.toNat_ofNat', wordValue]
    omega
  have second : UInt8.ofNat (wordValue low high / 256) = high := by
    have high_lt := high.toNat_lt
    apply UInt8.toNat_inj.mp
    rw [UInt8.toNat_ofNat', wordValue]
    omega
  rw [word, first, second]

/-- A word holds a number up to multiples of 65536. -/
theorem word_mod (n : Nat) : word (n % 65536) = word n := by
  have low : UInt8.ofNat (n % 65536) = UInt8.ofNat n := by
    apply UInt8.toNat_inj.mp
    rw [UInt8.toNat_ofNat', UInt8.toNat_ofNat']
    omega
  have high : UInt8.ofNat (n % 65536 / 256) = UInt8.ofNat (n / 256) := by
    apply UInt8.toNat_inj.mp
    rw [UInt8.toNat_ofNat', UInt8.toNat_ofNat']
    omega
  rw [word, low, high, word]

/-- Exactly so many bytes, if there are that many, and those behind them. -/
def takeExact? (size : Nat) (bytes : List UInt8) : Option (List UInt8 × List UInt8) :=
  if size ≤ bytes.length then some (bytes.take size, bytes.drop size) else none

/-- What is taken has the announced length, and nothing is lost. -/
theorem takeExact?_eq_some :
    takeExact? size bytes = some (taken, rest) ↔ taken.length = size ∧ taken ++ rest = bytes := by
  unfold takeExact?
  constructor
  · intro found
    split at found
    · rename_i enough
      cases found
      exact ⟨List.length_take_of_le enough, List.take_append_drop size bytes⟩
    · cases found
  · rintro ⟨rfl, rfl⟩
    rw [if_pos (by rw [List.length_append]; omega), List.take_left, List.drop_left]

/-- An announced length that is too short leaves the end of what it announces in front of what
follows. -/
theorem takeExact?_append (short : size ≤ bytes.length) (behind : List UInt8) :
    takeExact? size (bytes ++ behind) = some (bytes.take size, bytes.drop size ++ behind) := by
  rw [takeExact?_eq_some, ← List.append_assoc, List.take_append_drop]
  exact ⟨List.length_take_of_le short, rfl⟩

end Receipt.Bytes
