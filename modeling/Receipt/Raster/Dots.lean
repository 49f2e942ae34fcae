/-!
# Packed dots

Eight neighbouring dots share a byte, the first one in the highest bit, and a black dot is a set
bit.  The dots behind the last one of a row are white.
-/

set_option autoImplicit false

namespace Receipt.Dots

/-- The bit of the dot at a position below eight. -/
def mask (position : Nat) : UInt8 :=
  (0x80 : UInt8) >>> UInt8.ofNat position

/-- Whether a byte has the dot at a position below eight. -/
def test (byte : UInt8) (position : Nat) : Bool :=
  byte &&& mask position != 0

/-- The byte of eight dots. -/
def packByte (dots : Nat → Bool) : UInt8 :=
  (List.range 8).foldl
    (fun byte position => if dots position then byte ||| mask position else byte) 0

/-- The bytes of a row of dots. -/
def packRow (dots : Array Bool) : List UInt8 :=
  (List.range ((dots.size + 7) / 8)).map
    (fun i => packByte (fun position => dots.getD (8 * i + position) false))

end Receipt.Dots
