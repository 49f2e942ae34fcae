import Mathlib.Data.List.Nodup
import Receipt.Proofs.Printer.Reader
import Receipt.Proofs.Raster.Dots
import Receipt.Session

/-!
# Pictures on paper

A picture and its strips leave the same dots on the paper.  A strip is 24 rows high and does not
move the paper; the line feed behind it does, by the spacing of lines that was set.  So every dot of
the picture comes from one place of one strip: row `y` from strip `y / 24`.  The rows of the last
strip that lie below the picture are white.
-/

set_option autoImplicit false

namespace Receipt

/-- The black dots of a rectangle whose first row is `top`. -/
def blackDots (top width height : Nat) (black : Nat → Nat → Bool) : List (Nat × Nat) :=
  (List.range height).flatMap (fun row =>
    ((List.range width).filter (fun x => black x row)).map (fun x => (x, top + row)))

/-- A dot is among the black ones of a picture exactly if it is inside and black there. -/
theorem mem_blackDots {top width height : Nat} {black : Nat → Nat → Bool} {x y : Nat} :
    (x, y) ∈ blackDots top width height black ↔
      ∃ row < height, x < width ∧ y = top + row ∧ black x row = true := by
  unfold blackDots
  rw [List.mem_flatMap]
  constructor
  · rintro ⟨row, low, listed⟩
    obtain ⟨column, shown, same⟩ := List.mem_map.mp listed
    cases same
    obtain ⟨inside, dark⟩ := List.mem_filter.mp shown
    exact ⟨row, List.mem_range.mp low, List.mem_range.mp inside, rfl, dark⟩
  · rintro ⟨row, low, inside, rfl, dark⟩
    refine ⟨row, List.mem_range.mpr low, List.mem_map.mpr ⟨x, ?_, rfl⟩⟩
    exact List.mem_filter.mpr ⟨List.mem_range.mpr inside, dark⟩

/-- No dot of a picture is printed twice. -/
theorem nodup_blackDots (top width height : Nat) (black : Nat → Nat → Bool) :
    (blackDots top width height black).Nodup := by
  unfold blackDots
  rw [List.nodup_flatMap]
  constructor
  · intro row _
    apply List.Nodup.map
    · intro a b same
      exact congrArg Prod.fst same
    · exact List.nodup_range.filter _
  · refine List.nodup_range.imp (fun {low high} apart place first second => apart ?_)
    obtain ⟨_, _, rfl⟩ := List.mem_map.mp first
    obtain ⟨_, _, same⟩ := List.mem_map.mp second
    have rows := congrArg Prod.snd same
    dsimp only at rows
    omega

/-- Only the dots inside a rectangle matter for it. -/
theorem blackDots_congr {top width height : Nat} {black dark : Nat → Nat → Bool}
    (same : ∀ x < width, ∀ row < height, black x row = dark x row) :
    blackDots top width height black = blackDots top width height dark := by
  unfold blackDots
  rw [List.flatMap_def, List.flatMap_def]
  congr 1
  apply List.map_congr_left
  intro row low
  congr 1
  apply List.filter_congr
  intro x inside
  exact same x (List.mem_range.mp inside) row (List.mem_range.mp low)

/-- Whether the dot of a column in a row is black in packed rows. -/
def pictureBlack (bytesPerRow : Nat) (data : List UInt8) (x row : Nat) : Bool :=
  (data.getD (row * bytesPerRow + x / 8) 0).toNat.testBit (7 - x % 8)

/-- Whether the dot of a column in a row is black in columns of three bytes, the highest bit of the
first one on top. -/
def stripBlack (columns : List UInt8) (x row : Nat) : Bool :=
  (columns.getD (3 * x + row / 8) 0).toNat.testBit (7 - row % 8)

/-- The dots that a step prints below a place. -/
def PaperStep.dots (top : Nat) : PaperStep → List (Nat × Nat)
  | picture bytesPerRow rows data =>
    blackDots top (8 * bytesPerRow) rows (pictureBlack bytesPerRow data)
  | strip width columns => blackDots top width 24 (stripBlack columns)
  | _ => []

/-- Where the paper is, in dots from its upper end, and the spacing of lines in dots. -/
structure Paper where
  top : Nat
  spacing : Nat

namespace Paper

/-- The paper behind a step. -/
def after (paper : Paper) : PaperStep → Paper
  | .spacing dots => { paper with spacing := dots.toNat }
  | .lineFeed => { paper with top := paper.top + paper.spacing }
  | .feed dots => { paper with top := paper.top + dots.toNat }
  | .picture _ rows _ => { paper with top := paper.top + rows }
  | .strip _ _ => paper

/-- The dots that instructions print, as column and row. -/
def drawn (paper : Paper) : List Instruction → List (Nat × Nat)
  | [] => []
  | .paper step :: rest => step.dots paper.top ++ (paper.after step).drawn rest
  | .setup _ :: rest => paper.drawn rest
  | .cell _ :: rest => paper.drawn rest

end Paper

namespace Raster

/-- Black dots lie inside a picture. -/
theorem inside_of_isBlack {image : Raster} {x y : Nat} (dark : image.isBlack x y = true) :
    x < image.widthPx ∧ y < image.rows := by
  simp only [isBlack, Bool.and_eq_true, decide_eq_true_eq] at dark
  exact dark.1

/-- A picture has the dots of its packed rows. -/
theorem isBlack_eq_pictureBlack (image : Raster) {x row : Nat} (inside : x < 8 * image.bytesPerRow)
    (low : row < image.rows) :
    image.isBlack x row = pictureBlack image.bytesPerRow image.data.toList x row := by
  have bit := Dots.test_eq_testBit (image.data.getD (row * image.bytesPerRow + x / 8) 0)
    (Nat.mod_lt x (by decide : 0 < 8))
  unfold isBlack widthPx pictureBlack
  rw [decide_eq_true inside, decide_eq_true low, bit]
  simp

/-- A strip has the dots of the rows that it covers. -/
theorem stripBlack_strip (image : Raster) (number : Nat) {x row : Nat} (inside : x < image.widthPx)
    (low : row < 24) :
    stripBlack (image.strip number).columns x row = image.isBlack x (24 * number + row) := by
  have byte : (image.strip number).columns.getD (3 * x + row / 8) 0 =
      image.stripByte number (3 * x + row / 8) := by
    have within : 3 * x + row / 8 < 3 * image.widthPx := by omega
    simp [strip, within]
  have column : (3 * x + row / 8) / 3 = x := by omega
  have third : (3 * x + row / 8) % 3 = row / 8 := by omega
  rw [stripBlack, byte, stripByte, Dots.testBit_packByte _ (Nat.mod_lt row (by decide)), column,
    third, Strip.height]
  congr 1
  omega

/-- The black dots of a picture, as one rectangle. -/
def dots (image : Raster) : List (Nat × Nat) :=
  blackDots 0 image.widthPx image.rows image.isBlack

/-- The black dots of the rows that a strip covers. -/
def stripDots (image : Raster) (number : Nat) : List (Nat × Nat) :=
  blackDots (24 * number) image.widthPx 24 (fun x row => image.isBlack x (24 * number + row))

/-- The dots of an image are its black ones. -/
theorem mem_dots (image : Raster) {x y : Nat} :
    (x, y) ∈ image.dots ↔ image.isBlack x y = true := by
  unfold dots
  rw [mem_blackDots]
  constructor
  · rintro ⟨row, -, -, rfl, dark⟩
    rw [Nat.zero_add]
    exact dark
  · intro dark
    have inside := inside_of_isBlack dark
    exact ⟨y, inside.2, inside.1, (Nat.zero_add y).symm, dark⟩

/-- A dot of a picture is a dot of the strip that covers its row, and of no other strip. -/
theorem mem_stripDots (image : Raster) {number x y : Nat} :
    (x, y) ∈ image.stripDots number ↔ number = y / 24 ∧ image.isBlack x y = true := by
  unfold stripDots
  rw [mem_blackDots]
  constructor
  · rintro ⟨row, low, -, rfl, dark⟩
    exact ⟨by omega, dark⟩
  · rintro ⟨rfl, dark⟩
    have place : 24 * (y / 24) + y % 24 = y := Nat.div_add_mod y 24
    refine ⟨y % 24, Nat.mod_lt y (by decide), (inside_of_isBlack dark).1, place.symm, ?_⟩
    rw [place]
    exact dark

/-- An envelope prints the dots of its picture. -/
theorem drawn_picture (image : Raster) (spacing : Nat) :
    Paper.drawn ⟨0, spacing⟩ (Command.raster image).instructions = image.dots := by
  have same : blackDots 0 (8 * image.bytesPerRow) image.rows
      (pictureBlack image.bytesPerRow image.data.toList) = image.dots :=
    blackDots_congr (fun x inside row low =>
      (image.isBlack_eq_pictureBlack inside low).symm)
  rw [← same]
  exact List.append_nil _

/-- Strips that follow each other print the dots of their rows, each strip below the one before. -/
theorem drawn_strips (image : Raster) (first count : Nat) (behind : List Instruction) :
    Paper.drawn ⟨24 * first, 24⟩
        ((List.range' first count).flatMap (fun number =>
          (Command.strip (image.strip number)).instructions) ++ behind) =
      (List.range' first count).flatMap image.stripDots ++
        Paper.drawn ⟨24 * (first + count), 24⟩ behind := by
  induction count generalizing first with
  | zero => rfl
  | succ count ih =>
      -- The line feed behind a strip moves the paper to the first row of the next one.
      have shown : blackDots (24 * first) image.widthPx 24
          (stripBlack (image.strip first).columns) = image.stripDots first :=
        blackDots_congr (fun x inside row low => image.stripBlack_strip first inside low)
      have below := ih (first + 1)
      have last : first + 1 + count = first + (count + 1) := by omega
      rw [Nat.mul_add, last] at below
      rw [List.range'_succ, List.flatMap_cons, List.flatMap_cons, List.append_assoc,
        List.append_assoc, ← below, ← shown]
      rfl

/-- No dot is in two strips or twice in one. -/
theorem nodup_flatMap_stripDots (image : Raster) (count : Nat) :
    ((List.range count).flatMap image.stripDots).Nodup := by
  rw [List.nodup_flatMap]
  constructor
  · intro number _
    exact nodup_blackDots _ _ _ _
  · refine List.nodup_range.imp (fun {low high} apart place first second => apart ?_)
    obtain ⟨x, y⟩ := place
    rw [(image.mem_stripDots.mp first).1, (image.mem_stripDots.mp second).1]

/-- Enough strips print the dots of the picture. -/
theorem mem_flatMap_stripDots (image : Raster) {count : Nat} (enough : image.rows ≤ 24 * count)
    {x y : Nat} :
    (x, y) ∈ (List.range count).flatMap image.stripDots ↔ image.isBlack x y = true := by
  simp only [List.mem_flatMap, List.mem_range, mem_stripDots]
  constructor
  · rintro ⟨_, -, -, dark⟩
    exact dark
  · intro dark
    have low := (inside_of_isBlack dark).2
    exact ⟨y / 24, by omega, rfl, dark⟩

/-- The strips that a picture needs. -/
def stripCount (image : Raster) : Nat :=
  (image.rows + 23) / 24

/-- The commands that print a picture as strips. -/
def stripCommands (image : Raster) : List Command :=
  .stripSpacing ::
    (((List.range image.stripCount).map image.strip).map .strip ++ [.textSpacing])

/-- A picture that is not too wide is printed by these commands. -/
theorem imageCommands_eq (image : Raster) (narrow : image.widthPx ≤ 65535) :
    Action.imageCommands true image = .ok image.stripCommands := by
  have cut : image.toStrips = .ok ((List.range image.stripCount).map image.strip) := if_pos narrow
  rw [Action.imageCommands, cut]
  rfl

/-- The commands of strips can be read: every strip has the columns that it announces. -/
theorem isReadable_stripCommands (image : Raster) (narrow : image.widthPx ≤ 65535) :
    ∀ command ∈ image.stripCommands, command.IsReadable := by
  rw [stripCommands, List.forall_mem_cons]
  refine ⟨trivial, fun command mem => ?_⟩
  rcases List.mem_append.mp mem with part | last
  · obtain ⟨_, cut, rfl⟩ := List.mem_map.mp part
    obtain ⟨number, -, rfl⟩ := List.mem_map.mp cut
    exact ⟨narrow, by simp [strip]⟩
  · rw [List.mem_singleton.mp last]
    trivial

/-- The commands of strips print the dots of all strips, whatever the spacing of lines was. -/
theorem drawn_stripCommands (image : Raster) (spacing : Nat) :
    Paper.drawn ⟨0, spacing⟩ (image.stripCommands.flatMap Command.instructions) =
      (List.range image.stripCount).flatMap image.stripDots := by
  have strips := image.drawn_strips 0 image.stripCount [.paper (.spacing 30)]
  have last : Paper.drawn ⟨24 * (0 + image.stripCount), 24⟩ [.paper (.spacing 30)] = [] := rfl
  rw [last, List.append_nil, ← List.range_eq_range'] at strips
  rw [← strips, stripCommands, List.flatMap_cons, List.flatMap_append, List.flatMap_map,
    List.flatMap_map]
  rfl

/-- A picture and its strips say the same.  The strips of a picture stand between a command for line
spacing 24 and one for line spacing 30; there are as many as its rows need, each with three bytes
for every column of dots.  Read one after the other from the upper end of the paper, they print the
same dots as the envelope: exactly the black ones, each from one place, and none below the picture.
A picture that is too wide for the word in front of a strip is refused. -/
theorem strips_print_picture (image : Raster) :
    if image.widthPx ≤ 65535 then
      ∃ parts : List Strip,
        let chunks := [0x1b, 0x33, 24] :: parts.map Strip.bytes ++ [[0x1b, 0x33, 30]]
        image.toStrips = .ok parts ∧
          parts.length = (image.rows + 23) / 24 ∧
          (∀ part ∈ parts, part.bytes.length = 5 + 3 * image.widthPx + 1) ∧
          (∃ commands, Action.imageCommands true image = .ok commands ∧
            commands.map Command.bytes = chunks) ∧
          ∃ strips picture, Reader.read chunks.flatten = some strips ∧
            Reader.read image.toEnvelope = some picture ∧
            ∀ spacing,
              let fromStrips := Paper.drawn ⟨0, spacing⟩ strips
              let fromPicture := Paper.drawn ⟨0, spacing⟩ picture
              fromStrips.Nodup ∧ fromPicture.Nodup ∧
                (∀ x y, (x, y) ∈ fromStrips ↔ image.isBlack x y = true) ∧
                (∀ x y, (x, y) ∈ fromPicture ↔ image.isBlack x y = true) ∧
                ∀ x y, (x, y) ∈ fromStrips → y < image.rows
    else
      image.toStrips = .error (.image (.tooWideForStrips image.widthPx)) ∧
        Action.imageCommands true image = .error (.image (.tooWideForStrips image.widthPx)) := by
  split
  · next narrow =>
    have bytes : image.stripCommands.map Command.bytes =
        [0x1b, 0x33, 24] :: ((List.range image.stripCount).map image.strip).map Strip.bytes ++
          [[0x1b, 0x33, 30]] := by
      rw [stripCommands, List.map_cons, List.map_append, List.map_map]
      rfl
    refine ⟨(List.range image.stripCount).map image.strip, if_pos narrow, ?_, ?_,
      ⟨image.stripCommands, image.imageCommands_eq narrow, bytes⟩, ?_⟩
    · rw [List.length_map, List.length_range, stripCount]
    · intro part mem
      obtain ⟨number, -, rfl⟩ := List.mem_map.mp mem
      simp only [Strip.bytes, Bytes.word, strip, List.length_append, List.length_cons,
        List.length_nil, List.length_map, List.length_range]
    · have strips := (Command.reads_flatMap_bytes (image.isReadable_stripCommands narrow)).read_eq
      rw [List.flatMap_def, bytes] at strips
      have picture := (Reader.reads_envelope image).read_eq
      refine ⟨_, _, strips, picture, fun spacing => ?_⟩
      have enough : image.rows ≤ 24 * image.stripCount := by
        unfold stripCount
        omega
      have fromPicture := image.drawn_picture spacing
      rw [Command.instructions] at fromPicture
      rw [image.drawn_stripCommands, fromPicture]
      refine ⟨image.nodup_flatMap_stripDots _, nodup_blackDots _ _ _ _,
        fun x y => image.mem_flatMap_stripDots enough, fun x y => image.mem_dots, ?_⟩
      intro x y shown
      exact (inside_of_isBlack ((image.mem_flatMap_stripDots enough).mp shown)).2
  · next wide =>
    have refused : image.toStrips = .error (.image (.tooWideForStrips image.widthPx)) :=
      if_neg wide
    refine ⟨refused, ?_⟩
    rw [Action.imageCommands, refused]
    rfl

end Raster

end Receipt
