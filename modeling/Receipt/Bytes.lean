/-!
# Bytes of numbers and text

Numbers are sent as their low bytes, words with the low byte first, and text outside a code page as
UTF-8.
-/

set_option autoImplicit false

namespace Receipt.Bytes

/-- The low byte of an integer. -/
def lowByte (n : Int) : UInt8 :=
  UInt8.ofNat (n % 256).toNat

/-- The two low bytes of a natural number, the lower one first. -/
def word (n : Nat) : List UInt8 :=
  [UInt8.ofNat n, UInt8.ofNat (n / 256)]

/-- The number that two bytes write, the lower one first. -/
def wordValue (low high : UInt8) : Nat :=
  low.toNat + 256 * high.toNat

/-- The UTF-8 bytes of a text. -/
def ofText (text : List Char) : List UInt8 :=
  text.flatMap String.utf8EncodeChar

/-- A word below 65536 is read back from its two bytes. -/
theorem wordValue_ofNat {n : Nat} (h : n < 65536) :
    wordValue (UInt8.ofNat n) (UInt8.ofNat (n / 256)) = n := by
  simp only [wordValue, UInt8.toNat_ofNat']
  omega

end Receipt.Bytes
