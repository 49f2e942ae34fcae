import Receipt.Log

/-!
# Segments

The bytes of a symbol are written in segments, each in one of four modes.  A first cut follows the
kinds of the bytes; neighbouring segments are then joined wherever one segment in a common mode takes
no more bits than two.
-/

set_option autoImplicit false

namespace Receipt.Qr

/-- How the bytes of a segment are written. -/
inductive Mode where
  | numeric
  | alphanumeric
  | byte
  | kanji
  deriving DecidableEq, Repr

/-- Bytes in one mode. -/
structure Segment where
  mode : Mode
  bytes : List UInt8
  deriving Repr

namespace Mode

/-- The four bits that announce a mode. -/
def indicator : Mode → Nat
  | numeric => 1
  | alphanumeric => 2
  | byte => 4
  | kanji => 8

/-- The bits of a segment's length in a version. -/
def lengthBits (mode : Mode) (version : Nat) : Nat :=
  let pick (small medium large : Nat) :=
    if version ≤ 9 then small else if version ≤ 26 then medium else large
  match mode with
  | numeric => pick 10 12 14
  | alphanumeric => pick 9 11 13
  | byte => pick 8 16 16
  | kanji => pick 8 10 12

/-- How many bits so many bytes take without the header. -/
def dataBits (mode : Mode) (count : Nat) : Nat :=
  match mode with
  | numeric => (10 * count + 2) / 3
  | alphanumeric => (11 * count + 1) / 2
  | byte => 8 * count
  | kanji => 13 * (count / 2)

/-- How many bits a segment of so many bytes takes in a version. -/
def segmentBits (mode : Mode) (version count : Nat) : Nat :=
  4 + mode.lengthBits version + mode.dataBits count

/-- The mode that two segments can share. -/
def common (a b : Mode) : Mode :=
  if a = b then a
  else
    match a, b with
    | numeric, alphanumeric => alphanumeric
    | alphanumeric, numeric => alphanumeric
    | _, _ => byte

end Mode

/-- What a byte can be part of: a sign or letter of the alphanumeric mode, a digit, the first byte
of a pair, the second byte of a pair, or none of these. -/
inductive ByteKind where
  | sign
  | digit
  | letter
  | lead
  | leadHigh
  | leadLast
  | trail
  | trailHigh
  | other
  deriving DecidableEq, Repr

/-- The kind of a byte. -/
def ByteKind.of (byte : UInt8) : ByteKind :=
  let code := byte.toNat
  let within (low high : Nat) : Bool := low ≤ code && code ≤ high
  if code = 0x20 ∨ code = 0x24 ∨ code = 0x25 ∨ code = 0x2a ∨ code = 0x2b ∨ within 0x2d 0x2f ∨
      code = 0x3a then sign
  else if within 0x30 0x39 then digit
  else if within 0x41 0x5a then letter
  else if within 0x81 0x9f then lead
  else if within 0xe0 0xea then leadHigh
  else if code = 0xeb then leadLast
  else if code = 0x40 ∨ within 0x5b 0x7e ∨ code = 0x80 ∨ within 0xa0 0xbf then trail
  else if within 0xc0 0xdf ∨ within 0xec 0xfc then trailHigh
  else other

namespace ByteKind

/-- Whether a byte of this kind starts a pair. -/
def startsPair : ByteKind → Bool
  | lead => true
  | leadHigh => true
  | leadLast => true
  | _ => false

/-- The mode that a byte of this kind starts. -/
def mode : ByteKind → Mode
  | sign => .alphanumeric
  | letter => .alphanumeric
  | digit => .numeric
  | lead => .kanji
  | leadHigh => .kanji
  | leadLast => .kanji
  | trail => .byte
  | trailHigh => .byte
  | other => .byte

/-- Whether a byte of this kind completes the pair that another one started. -/
def completes (first second : ByteKind) : Bool :=
  if first = leadLast then second = letter || second = lead || second = trail
  else second = letter || second.startsPair || second = trail || second = trailHigh

end ByteKind

/-- A cut in progress: the finished segments, last one first, and the bytes of the open segment,
last one first, with its mode.  In kanji mode a pair may wait for its second byte. -/
structure Cut where
  done : List Segment
  mode : Mode
  bytes : List UInt8
  waiting : Option UInt8

namespace Cut

/-- Nothing read yet. -/
def start : Cut :=
  ⟨[], .byte, [], none⟩

/-- The finished segments with the open one, if it holds bytes. -/
def closeOpen (cut : Cut) : List Segment :=
  if cut.bytes.isEmpty then cut.done else ⟨cut.mode, cut.bytes.reverse⟩ :: cut.done

/-- Finish the open segment; a byte that waits for its pair becomes a segment of its own. -/
def close (cut : Cut) : List Segment :=
  match cut.waiting with
  | none => cut.closeOpen
  | some byte => ⟨.byte, [byte]⟩ :: cut.closeOpen

/-- Begin a segment with a byte. -/
def begin (done : List Segment) (byte : UInt8) : Cut :=
  let kind := ByteKind.of byte
  if kind.startsPair then ⟨done, .kanji, [], some byte⟩ else ⟨done, kind.mode, [byte], none⟩

/-- Read one more byte. -/
def step (cut : Cut) (byte : UInt8) : Cut :=
  let kind := ByteKind.of byte
  match cut.waiting with
  | some first =>
    if (ByteKind.of first).completes kind then
      { cut with bytes := byte :: first :: cut.bytes, waiting := none }
    else begin cut.close byte
  | none =>
    if cut.bytes.isEmpty then begin cut.done byte
    else if kind.mode = cut.mode then
      if kind.startsPair then { cut with waiting := some byte }
      else { cut with bytes := byte :: cut.bytes }
    else begin cut.close byte

end Cut

namespace Segment

/-- How many bits a segment takes in a version. -/
def bitLength (segment : Segment) (version : Nat) : Nat :=
  segment.mode.segmentBits version segment.bytes.length

/-- The segments that the kinds of the bytes suggest. -/
def ofBytes (bytes : List UInt8) : List Segment :=
  ((bytes.foldl Cut.step Cut.start).close).reverse

/-- Join segments with the one before them, which has the given mode and bytes, wherever one segment
in a common mode takes no more bits in a version than two. -/
def joinFrom (version : Nat) (mode : Mode) (bytes : Log UInt8) : List Segment → List Segment
  | [] => [⟨mode, bytes.toList⟩]
  | next :: rest =>
    let common := mode.common next.mode
    let joined := bytes.append next.bytes
    if common.segmentBits version joined.size ≤
        mode.segmentBits version bytes.size + next.bitLength version then
      joinFrom version common joined rest
    else ⟨mode, bytes.toList⟩ :: joinFrom version next.mode (.ofList next.bytes) rest

/-- Join neighbouring segments wherever this takes no more bits in a version. -/
def optimize (version : Nat) : List Segment → List Segment
  | [] => []
  | first :: rest => joinFrom version first.mode (.ofList first.bytes) rest

/-- How many bits segments take in a version. -/
def totalBits (version : Nat) (segments : List Segment) : Nat :=
  segments.foldl (fun total segment => total + segment.bitLength version) 0

end Segment

end Receipt.Qr
