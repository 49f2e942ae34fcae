import Receipt.Proofs.Printer.Reader
import Receipt.Proofs.Session.Changes

/-!
# What a printer puts on paper

A printer that reads instructions is set up by some of them and puts a mark for each of the others:
a character in the style and from the table in force, or a step of the paper.  Its style is the one
that the settings among the commands leave in the registers.
-/

set_option autoImplicit false

namespace Receipt

/-- What a printer puts on paper. -/
inductive Mark where
  | cell (byte : UInt8) (style : TextStyle) (table : UInt8)
  | paper (step : PaperStep)
  deriving DecidableEq, Repr

/-- The width of a mark in characters of normal width; a step of the paper has none. -/
def Mark.width : Mark → Nat
  | cell _ style _ => style.size.widthFactor
  | paper _ => 0

/-- How a printer is set up for text: the style and the table in force. -/
structure TextMode where
  style : TextStyle
  table : UInt8
  deriving DecidableEq, Repr

namespace TextMode

/-- The mode behind an instruction. -/
def after (mode : TextMode) : Instruction → TextMode
  | .setup .reset => ⟨.plain, 0⟩
  | .setup (.table id) => { mode with table := id }
  | .setup (.set change) => { mode with style := mode.style.apply change }
  | .cell _ => mode
  | .paper _ => mode

/-- The marks of one instruction. -/
def mark (mode : TextMode) : Instruction → List Mark
  | .setup _ => []
  | .cell byte => [.cell byte mode.style mode.table]
  | .paper step => [.paper step]

/-- The marks of instructions. -/
def marks (mode : TextMode) : List Instruction → List Mark
  | [] => []
  | instruction :: rest => mode.mark instruction ++ (mode.after instruction).marks rest

/-- The mode behind instructions. -/
def afterAll (mode : TextMode) (instructions : List Instruction) : TextMode :=
  instructions.foldl after mode

/-- Instructions behind others are carried out in the mode that those leave. -/
theorem marks_append (mode : TextMode) (front back : List Instruction) :
    mode.marks (front ++ back) = mode.marks front ++ (mode.afterAll front).marks back := by
  induction front generalizing mode with
  | nil => rfl
  | cons instruction rest ih =>
      rw [List.cons_append, marks, marks, ih, List.append_assoc]
      rfl

/-- The state behind two parts is that behind the second one. -/
theorem afterAll_append (mode : TextMode) (front back : List Instruction) :
    mode.afterAll (front ++ back) = (mode.afterAll front).afterAll back :=
  List.foldl_append

/-- Cells do not change the state. -/
theorem afterAll_cells (mode : TextMode) (body : List UInt8) :
    mode.afterAll (body.map .cell) = mode := by
  induction body with
  | nil => rfl
  | cons byte rest ih => exact ih

/-- Cells are marked in the style and with the table in force. -/
theorem marks_cells (mode : TextMode) (body : List UInt8) :
    mode.marks (body.map .cell) = body.map (fun byte => .cell byte mode.style mode.table) := by
  induction body with
  | nil => rfl
  | cons byte rest ih =>
      rw [List.map_cons, List.map_cons, ← ih]
      rfl

/-- A command sets the registers of the style. -/
theorem style_afterAll_instructions (mode : TextMode) (command : Command) :
    (mode.afterAll command.instructions).style = mode.style.follow command := by
  cases command with
  | text body =>
      rw [Command.instructions, afterAll_cells]
      rfl
  | _ => rfl

/-- Commands set the registers of the style one after the other. -/
theorem style_afterAll (mode : TextMode) (commands : List Command) :
    (mode.afterAll (commands.flatMap Command.instructions)).style =
      mode.style.followAll commands := by
  induction commands generalizing mode with
  | nil => rfl
  | cons command rest ih =>
      rw [List.flatMap_cons, afterAll_append, ih, style_afterAll_instructions]
      rfl

/-- Settings put nothing on paper and leave the table as it is. -/
theorem marks_settings (mode : TextMode) (changes : List Setting) :
    let instructions := (changes.map Command.set).flatMap Command.instructions
    mode.marks instructions = [] ∧ (mode.afterAll instructions).table = mode.table := by
  induction changes generalizing mode with
  | nil => exact ⟨rfl, rfl⟩
  | cons change rest ih => exact ih { mode with style := mode.style.apply change }

/-- What is written before a text puts nothing on paper and selects the table of the text. -/
theorem marks_textOpening (mode : TextMode) (profile : Profile) (previous : Option TextStyle)
    (style : TextStyle) :
    let instructions := (Output.textOpening profile previous style).flatMap Command.instructions
    mode.marks instructions = [] ∧ (mode.afterAll instructions).table = profile.charset.id :=
  marks_settings { mode with table := profile.charset.id } (style.changes previous)

/-- The marks of commands. -/
def marksOf (mode : TextMode) (commands : List Command) : List Mark :=
  mode.marks (commands.flatMap Command.instructions)

/-- The marks of two parts stand one behind the other. -/
theorem marksOf_append (mode : TextMode) (front back : List Command) :
    mode.marksOf (front ++ back) =
      mode.marksOf front ++
        (mode.afterAll (front.flatMap Command.instructions)).marksOf back := by
  rw [marksOf, List.flatMap_append, marks_append]
  rfl

/-- A text is put on paper in its own style and table, whatever was written before it. -/
theorem marksOf_text (mode : TextMode) {written : List Command} {previous : Option TextStyle}
    (agrees : Agrees written previous) (profile : Profile) (style : TextStyle)
    (bytes : List UInt8) :
    mode.marksOf (written ++ (Output.textOpening profile previous style ++ [.text bytes])) =
      mode.marksOf written ++
        bytes.map (fun byte => .cell byte style profile.charset.id) := by
  have known := Output.agrees_textOpening agrees profile style
  have style_eq := mode.style_afterAll (written ++ Output.textOpening profile previous style)
  rw [known.followAll_eq, List.flatMap_append, afterAll_append] at style_eq
  obtain ⟨silent, table_eq⟩ := marks_textOpening
    (mode.afterAll (written.flatMap Command.instructions)) profile previous style
  have cells := marks_cells
    ((mode.afterAll (written.flatMap Command.instructions)).afterAll
      ((Output.textOpening profile previous style).flatMap Command.instructions)) bytes
  rw [style_eq, table_eq] at cells
  rw [marksOf_append, marksOf_append, ← cells]
  simp only [marksOf, silent, List.nil_append, List.flatMap_cons, List.flatMap_nil,
    List.append_nil, Command.instructions]

end TextMode

end Receipt
