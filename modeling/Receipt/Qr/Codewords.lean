import Receipt.Qr.ReedSolomon
import Receipt.Qr.Segment
import Receipt.Qr.Version

/-!
# Codewords

The bits of the segments are closed by up to four zeros, filled up to whole bytes and then to the
capacity of the version by two alternating bytes.  The codewords are dealt into blocks, each block
gets its error correction codewords, and all of them are read across the blocks.
-/

set_option autoImplicit false

namespace Receipt.Qr

/-- Write a number in a given number of bits, the highest one first. -/
def bitsOf (count n : Nat) : List Bool :=
  (List.range count).map (fun i => n.testBit (count - 1 - i))

/-- The number of an alphanumeric byte. -/
def alphanumericValue (byte : UInt8) : Nat :=
  let code := byte.toNat
  if 0x30 ≤ code ∧ code ≤ 0x39 then code - 0x30
  else if 0x41 ≤ code ∧ code ≤ 0x5a then code - 0x41 + 10
  else
    match [0x20, 0x24, 0x25, 0x2a, 0x2b, 0x2d, 0x2e, 0x2f, 0x3a].idxOf? code with
    | some i => 36 + i
    | none => 0

/-- Digits in groups of three. -/
def numericBits : List UInt8 → List Bool
  | a :: b :: c :: rest =>
    bitsOf 10 (100 * (a.toNat - 48) + 10 * (b.toNat - 48) + (c.toNat - 48)) ++ numericBits rest
  | [a, b] => bitsOf 7 (10 * (a.toNat - 48) + (b.toNat - 48))
  | [a] => bitsOf 4 (a.toNat - 48)
  | [] => []

/-- Alphanumeric bytes in pairs. -/
def alphanumericBits : List UInt8 → List Bool
  | a :: b :: rest =>
    bitsOf 11 (45 * alphanumericValue a + alphanumericValue b) ++ alphanumericBits rest
  | [a] => bitsOf 6 (alphanumericValue a)
  | [] => []

/-- The number of a pair of bytes: the two ranges of pairs are moved together, and the first byte
counts 192. -/
def kanjiValue (high low : UInt8) : Nat :=
  let code := 256 * high.toNat + low.toNat
  let moved := if code < 0xe040 then code - 0x8140 else code - 0xc140
  moved / 256 * 0xc0 + moved % 256

/-- Pairs of bytes. -/
def kanjiBits : List UInt8 → List Bool
  | high :: low :: rest => bitsOf 13 (kanjiValue high low) ++ kanjiBits rest
  | _ => []

/-- The bits of a segment in a version. -/
def Segment.bits (version : Nat) (segment : Segment) : List Bool :=
  let count := match segment.mode with
    | .kanji => segment.bytes.length / 2
    | _ => segment.bytes.length
  let body := match segment.mode with
    | .numeric => numericBits segment.bytes
    | .alphanumeric => alphanumericBits segment.bytes
    | .byte => segment.bytes.flatMap (fun byte => bitsOf 8 byte.toNat)
    | .kanji => kanjiBits segment.bytes
  bitsOf 4 segment.mode.indicator ++ bitsOf (segment.mode.lengthBits version) count ++ body

/-- Whole bytes of bits; `fuel` bounds their number. -/
def bytesOfBits (fuel : Nat) (bits : List Bool) : List Nat :=
  match fuel, bits with
  | 0, _ => []
  | _, [] => []
  | fuel + 1, bits =>
    (bits.take 8).foldl (fun n bit => 2 * n + (if bit then 1 else 0)) 0 ::
      bytesOfBits fuel (bits.drop 8)

/-- The data codewords of segments that fit a version. -/
def dataCodewords (version : Nat) (segments : List Segment) : List Nat :=
  let bits := segments.flatMap (Segment.bits version)
  let room := Version.capacity version - bits.length
  let closed := bits ++ List.replicate (min 4 room) false
  let whole := closed ++ List.replicate ((8 - closed.length % 8) % 8) false
  let bytes := bytesOfBits whole.length whole
  let missing := Version.capacity version / 8 - bytes.length
  bytes ++ (List.range missing).map (fun i => if i % 2 = 0 then 0xec else 0x11)

/-- Deal codewords into blocks of the given lengths. -/
def deal : List Nat → List Nat → List (List Nat)
  | [], _ => []
  | length :: lengths, codewords => codewords.take length :: deal lengths (codewords.drop length)

/-- Read blocks across: the first codewords of all blocks, then the second ones, and so on. -/
def readAcross (longest : Nat) (blocks : List (List Nat)) : List Nat :=
  let columns := blocks.map List.toArray
  (List.range longest).flatMap (fun i => columns.filterMap (fun column => column[i]?))

/-- All codewords of a symbol in the order in which they are placed. -/
def allCodewords (version : Nat) (segments : List Segment) : List Nat :=
  let layout := Version.get version
  let lengths := List.replicate layout.shortBlocks layout.shortLength ++
    List.replicate layout.longBlocks (layout.shortLength + 1)
  let blocks := deal lengths (dataCodewords version segments)
  let divisor := Correction.divisor layout.correction
  readAcross (layout.shortLength + 1) blocks ++
    readAcross layout.correction (blocks.map (Correction.ofBlock divisor))

end Receipt.Qr
