/-!
# Versions of QR symbols

A version fixes the size of a symbol, how its codewords are split into blocks at the lowest level of
error correction, and where its alignment patterns stand.
-/

set_option autoImplicit false

namespace Receipt.Qr

/-- The layout of a version: the error correction codewords of a block, the number of short blocks
and of their data codewords, the number of blocks with one more data codeword, and the positions of
the alignment patterns on either axis. -/
structure Version where
  correction : Nat
  shortBlocks : Nat
  shortLength : Nat
  longBlocks : Nat
  alignment : List Nat
  deriving Repr, Inhabited

namespace Version

/-- The versions from 1 to 40. -/
def all : Array Version :=
  #[
    ⟨7, 1, 19, 0, []⟩,
    ⟨10, 1, 34, 0, [6, 18]⟩,
    ⟨15, 1, 55, 0, [6, 22]⟩,
    ⟨20, 1, 80, 0, [6, 26]⟩,
    ⟨26, 1, 108, 0, [6, 30]⟩,
    ⟨18, 2, 68, 0, [6, 34]⟩,
    ⟨20, 2, 78, 0, [6, 22, 38]⟩,
    ⟨24, 2, 97, 0, [6, 24, 42]⟩,
    ⟨30, 2, 116, 0, [6, 26, 46]⟩,
    ⟨18, 2, 68, 2, [6, 28, 50]⟩,
    ⟨20, 4, 81, 0, [6, 30, 54]⟩,
    ⟨24, 2, 92, 2, [6, 32, 58]⟩,
    ⟨26, 4, 107, 0, [6, 34, 62]⟩,
    ⟨30, 3, 115, 1, [6, 26, 46, 66]⟩,
    ⟨22, 5, 87, 1, [6, 26, 48, 70]⟩,
    ⟨24, 5, 98, 1, [6, 26, 50, 74]⟩,
    ⟨28, 1, 107, 5, [6, 30, 54, 78]⟩,
    ⟨30, 5, 120, 1, [6, 30, 56, 82]⟩,
    ⟨28, 3, 113, 4, [6, 30, 58, 86]⟩,
    ⟨28, 3, 107, 5, [6, 34, 62, 90]⟩,
    ⟨28, 4, 116, 4, [6, 28, 50, 72, 94]⟩,
    ⟨28, 2, 111, 7, [6, 26, 50, 74, 98]⟩,
    ⟨30, 4, 121, 5, [6, 30, 54, 78, 102]⟩,
    ⟨30, 6, 117, 4, [6, 28, 54, 80, 106]⟩,
    ⟨26, 8, 106, 4, [6, 32, 58, 84, 110]⟩,
    ⟨28, 10, 114, 2, [6, 30, 58, 86, 114]⟩,
    ⟨30, 8, 122, 4, [6, 34, 62, 90, 118]⟩,
    ⟨30, 3, 117, 10, [6, 26, 50, 74, 98, 122]⟩,
    ⟨30, 7, 116, 7, [6, 30, 54, 78, 102, 126]⟩,
    ⟨30, 5, 115, 10, [6, 26, 52, 78, 104, 130]⟩,
    ⟨30, 13, 115, 3, [6, 30, 56, 82, 108, 134]⟩,
    ⟨30, 17, 115, 0, [6, 34, 60, 86, 112, 138]⟩,
    ⟨30, 17, 115, 1, [6, 30, 58, 86, 114, 142]⟩,
    ⟨30, 13, 115, 6, [6, 34, 62, 90, 118, 146]⟩,
    ⟨30, 12, 121, 7, [6, 30, 54, 78, 102, 126, 150]⟩,
    ⟨30, 6, 121, 14, [6, 24, 50, 76, 102, 128, 154]⟩,
    ⟨30, 17, 122, 4, [6, 28, 54, 80, 106, 132, 158]⟩,
    ⟨30, 4, 122, 18, [6, 32, 58, 84, 110, 136, 162]⟩,
    ⟨30, 20, 117, 4, [6, 26, 54, 82, 110, 138, 166]⟩,
    ⟨30, 19, 118, 6, [6, 30, 58, 86, 114, 142, 170]⟩
  ]

/-- The layout of a version from 1 to 40. -/
def get (version : Nat) : Version :=
  all.getD (version - 1) default

/-- The number of modules on a side of a symbol. -/
def side (version : Nat) : Nat :=
  17 + 4 * version

/-- The number of data codewords. -/
def dataCodewords (layout : Version) : Nat :=
  layout.shortBlocks * layout.shortLength + layout.longBlocks * (layout.shortLength + 1)

/-- The bits that a version has for data. -/
def capacity (version : Nat) : Nat :=
  8 * (get version).dataCodewords

/-- The smallest version with room for so many bits. -/
def smallest? (bits : Nat) : Option Nat :=
  ((List.range 40).map (· + 1)).find? (fun version => bits ≤ capacity version)

end Version

end Receipt.Qr
