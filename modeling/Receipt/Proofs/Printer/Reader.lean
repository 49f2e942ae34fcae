import Receipt.Command

/-!
# Reading what a printer is sent

A printer reads its bytes one command after the other.  Escape and group separator begin commands, a
line feed is one by itself, and any other byte is a character.  The size of a picture or of a strip
is part of its command.  A byte sequence with an unknown command or with one that is cut short
cannot be read at all, so that nothing is left over where it can.  What is written here is how
printers are documented to read, not how the library writes; that the two fit together is shown for
every command that prints or sets up text and pictures.
-/

set_option autoImplicit false

namespace Receipt

/-- What sets up a printer. -/
inductive Setup where
  | reset
  | table (id : UInt8)
  | set (change : Setting)
  deriving DecidableEq, Repr

/-- What moves the paper or prints dots on it: the spacing of lines, a line feed, a feed of so many
dots, rows of packed dots, or a strip of 24 rows in columns of three bytes. -/
inductive PaperStep where
  | spacing (dots : UInt8)
  | lineFeed
  | feed (dots : UInt8)
  | picture (bytesPerRow rows : Nat) (data : List UInt8)
  | strip (width : Nat) (columns : List UInt8)
  deriving DecidableEq, Repr

/-- What a printer reads as one. -/
inductive Instruction where
  | setup (setup : Setup)
  | cell (byte : UInt8)
  | paper (step : PaperStep)
  deriving DecidableEq, Repr

namespace Reader

/-- The size of characters that a byte means. -/
def size? : UInt8 → Option TextSize
  | 0x00 => some .normal
  | 0x01 => some .tall
  | 0x10 => some .wide
  | 0x11 => some .big
  | 0x22 => some .big2
  | 0x33 => some .big3
  | 0x44 => some .big4
  | 0x55 => some .big5
  | 0x66 => some .big6
  | _ => none

/-- The double strike that a byte means. -/
def doubleStrike? : UInt8 → Option DoubleStrike
  | 0 => some .off
  | 1 => some .on
  | _ => none

/-- The underline that a byte means. -/
def underline? : UInt8 → Option Underline
  | 0 => some .off
  | 1 => some .thin
  | 2 => some .thick
  | _ => none

/-- The weight that a byte means. -/
def weight? : UInt8 → Option Weight
  | 0 => some .normal
  | 1 => some .bold
  | _ => none

/-- The colour that a byte means. -/
def color? : UInt8 → Option TextColor
  | 0 => some .black
  | 1 => some .red
  | _ => none

/-- The reversal that a byte means. -/
def reverse? : UInt8 → Option Reverse
  | 0 => some .off
  | 1 => some .on
  | _ => none

/-- The instruction of a setting, if its byte means one, in front of other bytes. -/
def setting? (change : Option Setting) (rest : List UInt8) :
    Option (Instruction × List UInt8) :=
  change.map (fun change => (.setup (.set change), rest))

/-- The instruction that takes so many bytes, if there are that many, and those behind them. -/
def sized? (size : Nat) (instruction : List UInt8 → Instruction) (bytes : List UInt8) :
    Option (Instruction × List UInt8) :=
  if size ≤ bytes.length then some (instruction (bytes.take size), bytes.drop size) else none

/-- The instruction behind an escape, and the bytes behind it. -/
def escape? : List UInt8 → Option (Instruction × List UInt8)
  | 0x40 :: rest => some (.setup .reset, rest)
  | 0x74 :: id :: rest => some (.setup (.table id), rest)
  | 0x47 :: value :: rest => setting? ((doubleStrike? value).map .doubleStrike) rest
  | 0x2d :: value :: rest => setting? ((underline? value).map .underline) rest
  | 0x45 :: value :: rest => setting? ((weight? value).map .weight) rest
  | 0x72 :: value :: rest => setting? ((color? value).map .color) rest
  | 0x33 :: dots :: rest => some (.paper (.spacing dots), rest)
  | 0x4a :: dots :: rest => some (.paper (.feed dots), rest)
  | 0x2a :: 0x21 :: low :: high :: rest =>
    let width := Bytes.wordValue low high
    sized? (3 * width) (fun columns => .paper (.strip width columns)) rest
  | _ => none

/-- The instruction behind a group separator, and the bytes behind it. -/
def group? : List UInt8 → Option (Instruction × List UInt8)
  | 0x21 :: value :: rest => setting? ((size? value).map .size) rest
  | 0x42 :: value :: rest => setting? ((reverse? value).map .reverse) rest
  | 0x76 :: 0x30 :: 0x00 :: xLow :: xHigh :: yLow :: yHigh :: rest =>
    let bytesPerRow := Bytes.wordValue xLow xHigh
    let rows := Bytes.wordValue yLow yHigh
    sized? (bytesPerRow * rows) (fun data => .paper (.picture bytesPerRow rows data)) rest
  | _ => none

/-- The first instruction of bytes, and those behind it. -/
def next? : List UInt8 → Option (Instruction × List UInt8)
  | [] => none
  | 0x1b :: rest => escape? rest
  | 0x1d :: rest => group? rest
  | 0x0a :: rest => some (.paper .lineFeed, rest)
  | byte :: rest => some (.cell byte, rest)

/-- A setting takes no bytes behind it. -/
theorem setting?_eq_some {change : Option Setting} {bytes rest : List UInt8}
    {instruction : Instruction} (h : setting? change bytes = some (instruction, rest)) :
    rest = bytes := by
  obtain ⟨found, -, same⟩ := Option.map_eq_some_iff.mp h
  cases same
  rfl

/-- An instruction with a size leaves the bytes behind those it takes. -/
theorem sized?_eq_some {size : Nat} {build : List UInt8 → Instruction} {bytes rest : List UInt8}
    {instruction : Instruction} (h : sized? size build bytes = some (instruction, rest)) :
    rest.length ≤ bytes.length := by
  unfold sized? at h
  split at h
  · cases h
    rw [List.length_drop]
    omega
  · cases h

/-- An escape takes some bytes. -/
theorem length_escape? {bytes rest : List UInt8} {instruction : Instruction}
    (h : escape? bytes = some (instruction, rest)) : rest.length < bytes.length := by
  unfold escape? at h
  split at h
  -- A strip takes its columns as well, and the last case is an unknown command.
  case h_9 low high tail =>
    have behind := sized?_eq_some h
    simp only [List.length_cons]
    omega
  case h_10 => cases h
  all_goals
    first
      | cases setting?_eq_some h
        simp only [List.length_cons]
        omega
      | cases h
        simp only [List.length_cons]
        omega

/-- A group command takes some bytes. -/
theorem length_group? {bytes rest : List UInt8} {instruction : Instruction}
    (h : group? bytes = some (instruction, rest)) : rest.length < bytes.length := by
  unfold group? at h
  split at h
  -- A picture takes its rows as well, and the last case is an unknown command.
  case h_3 xLow xHigh yLow yHigh tail =>
    have behind := sized?_eq_some h
    simp only [List.length_cons]
    omega
  case h_4 => cases h
  all_goals
    cases setting?_eq_some h
    simp only [List.length_cons]
    omega

/-- Each instruction takes some bytes. -/
theorem length_next? {bytes rest : List UInt8} {instruction : Instruction}
    (h : next? bytes = some (instruction, rest)) : rest.length < bytes.length := by
  unfold next? at h
  split at h
  · cases h
  · have behind := length_escape? h
    rw [List.length_cons]
    omega
  · have behind := length_group? h
    rw [List.length_cons]
    omega
  · cases h
    rw [List.length_cons]
    omega
  · cases h
    rw [List.length_cons]
    omega

/-- The instructions of bytes, if these can be read to their end. -/
def read (bytes : List UInt8) : Option (List Instruction) :=
  match bytes with
  | [] => some []
  | byte :: others =>
    match _found : next? (byte :: others) with
    | some (instruction, rest) => (read rest).map (instruction :: ·)
    | none => none
termination_by bytes.length
decreasing_by exact length_next? _found

/-- Reading goes on behind the first instruction. -/
theorem read_of_next? {bytes rest : List UInt8} {instruction : Instruction}
    (h : next? bytes = some (instruction, rest)) :
    read bytes = (read rest).map (instruction :: ·) := by
  cases bytes with
  | nil => cases h
  | cons byte others =>
      rw [read]
      split
      · next found =>
        rw [h] at found
        cases found
        rfl
      · next missing =>
        rw [h] at missing
        cases missing

/-- Whether bytes are instructions whatever stands behind them. -/
def Reads (bytes : List UInt8) (instructions : List Instruction) : Prop :=
  ∀ rest, read (bytes ++ rest) = (read rest).map (instructions ++ ·)

namespace Reads

variable {bytes others : List UInt8} {instructions more : List Instruction}

/-- No bytes are read as no instructions. -/
theorem nil : Reads [] [] := by
  intro rest
  exact Option.map_id'.symm

/-- Bytes that are one instruction whatever follows are read as that one. -/
theorem one {instruction : Instruction}
    (h : ∀ rest, next? (bytes ++ rest) = some (instruction, rest)) :
    Reads bytes [instruction] :=
  fun rest => read_of_next? (h rest)

/-- Parts are read one after the other. -/
theorem append (front : Reads bytes instructions) (back : Reads others more) :
    Reads (bytes ++ others) (instructions ++ more) := by
  intro rest
  rw [List.append_assoc, front, back, Option.map_map]
  congr 1
  funext behind
  exact (List.append_assoc instructions more behind).symm

/-- All bytes are read. -/
theorem read_eq (h : Reads bytes instructions) : read bytes = some instructions := by
  have all := h []
  rw [List.append_nil, read] at all
  rw [all, Option.map_some, List.append_nil]

end Reads

/-- An instruction takes exactly the bytes of its size. -/
theorem sized?_append {size : Nat} {body : List UInt8} (length_eq : body.length = size)
    (build : List UInt8 → Instruction) (rest : List UInt8) :
    sized? size build (body ++ rest) = some (build body, rest) := by
  subst length_eq
  unfold sized?
  rw [if_pos (by rw [List.length_append]; omega), List.take_left, List.drop_left]

/-- A byte that is no control character is a cell. -/
theorem next?_cell {byte : UInt8} (h : 0x20 ≤ byte) (rest : List UInt8) :
    next? (byte :: rest) = some (.cell byte, rest) := by
  unfold next?
  split
  · next same => cases same
  · next same => cases same; exact absurd h (by decide)
  · next same => cases same; exact absurd h (by decide)
  · next same => cases same; exact absurd h (by decide)
  · next same => cases same; rfl

/-- Printable bytes are read as cells. -/
theorem reads_text {body : List UInt8} (h : ∀ byte ∈ body, 0x20 ≤ byte) :
    Reads body (body.map .cell) := by
  induction body with
  | nil => exact Reads.nil
  | cons byte others ih =>
      rw [List.forall_mem_cons] at h
      have first : Reads [byte] [.cell byte] := Reads.one (fun rest => next?_cell h.1 rest)
      exact first.append (ih h.2)

/-- A setting is read back. -/
theorem reads_setting (change : Setting) : Reads change.bytes [.setup (.set change)] := by
  apply Reads.one
  intro rest
  cases change with
  | size value | doubleStrike value | underline value | weight value | color value
  | reverse value => cases value <;> rfl

/-- An envelope is read as its picture. -/
theorem reads_envelope (image : Raster) :
    Reads image.toEnvelope
      [.paper (.picture image.bytesPerRow image.rows image.data.toList)] := by
  apply Reads.one
  intro rest
  have columns := Bytes.wordValue_ofNat (Nat.lt_succ_of_le image.bytesPerRow_le)
  have rows := Bytes.wordValue_ofNat (Nat.lt_succ_of_le image.rows_le)
  have size : image.data.toList.length = image.bytesPerRow * image.rows := by
    rw [Array.length_toList, image.size_data]
  have unfolded : next? (image.toEnvelope ++ rest) =
      let bytesPerRow :=
        Bytes.wordValue (UInt8.ofNat image.bytesPerRow) (UInt8.ofNat (image.bytesPerRow / 256))
      let rows := Bytes.wordValue (UInt8.ofNat image.rows) (UInt8.ofNat (image.rows / 256))
      sized? (bytesPerRow * rows) (fun data => .paper (.picture bytesPerRow rows data))
        (image.data.toList ++ rest) := rfl
  rw [columns, rows] at unfolded
  rw [unfolded]
  exact sized?_append size _ rest

/-- A strip is read back with the line feed behind it. -/
theorem reads_strip {part : Strip} (narrow : part.width ≤ 65535)
    (size : part.columns.length = 3 * part.width) :
    Reads part.bytes [.paper (.strip part.width part.columns), .paper .lineFeed] := by
  have columns : Reads ([0x1b, 0x2a, 0x21] ++ Bytes.word part.width ++ part.columns)
      [.paper (.strip part.width part.columns)] := by
    apply Reads.one
    intro rest
    have width := Bytes.wordValue_ofNat (Nat.lt_succ_of_le narrow)
    have unfolded :
        next? ([0x1b, 0x2a, 0x21] ++ Bytes.word part.width ++ part.columns ++ rest) =
          let width := Bytes.wordValue (UInt8.ofNat part.width) (UInt8.ofNat (part.width / 256))
          sized? (3 * width) (fun columns => .paper (.strip width columns))
            (part.columns ++ rest) := rfl
    rw [width] at unfolded
    rw [unfolded]
    exact sized?_append size _ rest
  have lineFeed : Reads [0x0a] [.paper .lineFeed] := Reads.one (fun rest => rfl)
  exact columns.append lineFeed

end Reader

namespace Command

/-- What a command asks of a printer, as far as it is about text or pictures. -/
def instructions : Command → List Instruction
  | reset => [.setup .reset]
  | selectTable id => [.setup (.table id)]
  | set change => [.setup (.set change)]
  | text body => body.map .cell
  | lineFeed => [.paper .lineFeed]
  | lineSpacing dots => [.paper (.spacing dots)]
  | feed dots => [.paper (.feed (UInt8.ofNat dots))]
  | raster image => [.paper (.picture image.bytesPerRow image.rows image.data.toList)]
  | strip part => [.paper (.strip part.width part.columns), .paper .lineFeed]
  | justify _ | barcode _ | qr _ _ _ | cut | openDrawer => []

/-- Whether a command is about text or pictures and its bytes keep to the form of such commands:
text has no control characters, and a strip has the columns that it announces. -/
def IsReadable : Command → Prop
  | text body => ∀ byte ∈ body, 0x20 ≤ byte
  | strip part => part.width ≤ 65535 ∧ part.columns.length = 3 * part.width
  | justify _ | barcode _ | qr _ _ _ | cut | openDrawer => False
  | _ => True

/-- A readable command is read as what it asks for. -/
theorem reads_bytes {command : Command} (h : command.IsReadable) :
    Reader.Reads command.bytes command.instructions := by
  cases command with
  | reset | selectTable id | lineFeed | lineSpacing dots | feed dots =>
      exact Reader.Reads.one (fun rest => rfl)
  | set change => exact Reader.reads_setting change
  | text body => exact Reader.reads_text h
  | raster image => exact Reader.reads_envelope image
  | strip part => exact Reader.reads_strip h.1 h.2
  | justify | barcode | qr | cut | openDrawer => exact h.elim

/-- Readable commands are read one after the other. -/
theorem reads_flatMap_bytes {commands : List Command}
    (h : ∀ command ∈ commands, command.IsReadable) :
    Reader.Reads (commands.flatMap bytes) (commands.flatMap instructions) := by
  induction commands with
  | nil => exact Reader.Reads.nil
  | cons command rest ih =>
      rw [List.forall_mem_cons] at h
      exact (reads_bytes h.1).append (ih h.2)

end Command

end Receipt
