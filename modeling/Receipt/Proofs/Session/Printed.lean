import Receipt.Proofs.Markup.Column
import Receipt.Proofs.Printer.Marks
import Receipt.Proofs.Session.Outputs
import Receipt.Proofs.Sink.Recorder

/-!
# Outputs that a printer can read

Outputs of text and pictures write commands that a printer reads back.  A session on a recorder
keeps that up: whatever it printed, its stream is read as the marks of its outputs, and the next
output puts its own marks behind them.  A text is in its own style though only the settings that
change are sent, because the style that the session remembers agrees with all that was written.
-/

set_option autoImplicit false

namespace Receipt

/-- The commands of two parts stand one behind the other. -/
theorem Move.commands_append (front back : List Move) :
    Move.commands (front ++ back) = Move.commands front ++ Move.commands back :=
  List.filterMap_append

/-- The commands that are written are those of the moves. -/
theorem Move.commands_writes (commands : List Command) :
    Move.commands (commands.map .write) = commands := by
  induction commands with
  | nil => rfl
  | cons command rest ih =>
      have head : Move.commands ((command :: rest).map .write) =
          command :: Move.commands (rest.map .write) := rfl
      rw [head, ih]

/-- The mark of a picture. -/
def Raster.mark (image : Raster) : Mark :=
  .paper (.picture image.bytesPerRow image.rows image.data.toList)

namespace Output

/-- The marks of an output that a document asks for. -/
def marks (charset : Charset) : Output → List Mark
  | text content style =>
    (charset.bytesOf content).map (fun byte => .cell byte style charset.id)
  | image picture => [picture.mark]
  | newLine _ => [.paper .lineFeed]
  | feed dots => if dots = 0 then [] else [.paper (.feed (UInt8.ofNat dots))]
  | _ => []

/-- Whether an output is one of text and pictures that a printer can read: text has bytes, none of
them a control character, and a new line is not justified. -/
def IsPrintable (charset : Charset) : Output → Prop
  | text content _ => charset.Encodes content ∧ ∀ byte ∈ charset.bytesOf content, 0x20 ≤ byte
  | newLine alignment => alignment = none
  | reset | image _ | feed _ | flush => True
  | _ => False

/-- What is written before a text can be read. -/
theorem isReadable_textOpening (profile : Profile) (previous : Option TextStyle)
    (style : TextStyle) :
    ∀ command ∈ textOpening profile previous style, command.IsReadable := by
  rw [textOpening, List.forall_mem_cons]
  refine ⟨trivial, fun command mem => ?_⟩
  obtain ⟨change, -, rfl⟩ := List.mem_map.mp mem
  trivial

/-- A printable output writes commands that can be read, and these put its marks on paper behind
whatever was written before. -/
theorem marks_plan {profile : Profile} {style : Option TextStyle} {written : List Command}
    (agrees : Agrees written style) {output : Output} (h : output.IsPrintable profile.charset) :
    ∃ asked, output.plan profile false style = .ok asked ∧
      (∀ command ∈ Move.commands asked.moves, command.IsReadable) ∧
      ∀ mode : TextMode, mode.marksOf (written ++ Move.commands asked.moves) =
        mode.marksOf written ++ output.marks profile.charset := by
  cases output with
  | justify | barcode | qr | cut | openDrawer | table => exact h.elim
  | reset =>
      refine ⟨_, rfl, ?_, fun mode => mode.marksOf_append written [.reset]⟩
      exact List.forall_mem_singleton.mpr trivial
  | flush =>
      refine ⟨_, rfl, List.forall_mem_nil _, fun mode => ?_⟩
      exact mode.marksOf_append written []
  | newLine alignment =>
      subst h
      refine ⟨_, rfl, ?_, fun mode => mode.marksOf_append written [.lineFeed]⟩
      exact List.forall_mem_singleton.mpr trivial
  | image picture =>
      refine ⟨_, rfl, ?_, fun mode => mode.marksOf_append written [.raster picture]⟩
      exact List.forall_mem_singleton.mpr trivial
  | feed dots =>
      by_cases none : dots = 0
      · subst none
        refine ⟨_, rfl, List.forall_mem_nil _, fun mode => ?_⟩
        exact mode.marksOf_append written []
      · have planned : Output.plan profile false style (.feed dots) =
            .ok ⟨style, [.write (.feed dots), .send dots]⟩ := by
          rw [Output.plan, if_neg none]
        refine ⟨_, planned, List.forall_mem_singleton.mpr trivial, fun mode => ?_⟩
        rw [marks, if_neg none]
        exact mode.marksOf_append written [.feed dots]
  -- Only a text needs to know what was written: its opening leaves out the settings that agree.
  | text content wanted =>
      obtain ⟨encodes, printable⟩ := h
      have planned : Output.plan profile false style (.text content wanted) =
          .ok ⟨some wanted, (textOpening profile style wanted ++
            [Command.text (profile.charset.bytesOf content)]).map .write⟩ := by
        rw [Output.plan, encodes]
      have commands := Move.commands_writes
        (textOpening profile style wanted ++ [.text (profile.charset.bytesOf content)])
      refine ⟨_, planned, ?_, fun mode => ?_⟩
      · rw [commands]
        intro command mem
        rcases List.mem_append.mp mem with opening | body
        · exact isReadable_textOpening profile style wanted command opening
        · rw [List.mem_singleton.mp body]
          exact printable
      · rw [commands]
        exact mode.marksOf_text agrees profile wanted _

/-- An output that has a plan succeeds on a connected recorder, which keeps the bytes of its
commands. -/
theorem run_of_plan {session : Session Recorder} (connected : session.isConnected = true)
    {output : Output} {asked : Plan}
    (planned : output.plan session.profile session.strips session.style = .ok asked) :
    ∃ next, output.run session =
        .ok () { session with style := asked.style, sink := next } ∧
      (Sink.perform asked.moves session.sink).2 = next ∧ next.connected = true ∧
      next.stream = session.sink.stream ++ (Move.commands asked.moves).flatMap Command.bytes := by
  obtain ⟨next, made, stays, stream⟩ := Recorder.perform_of_connected asked.moves connected
  refine ⟨next, ?_, congrArg Prod.snd made, stays, stream⟩
  rw [output.run_of_connected connected, planned]
  simp only [Action.fulfil, Action.perform, made]

end Output

namespace Session

/-- A session that printed some marks on a recorder: what was written can be read, in whatever mode
the printer is at first, and the style that is remembered agrees with it. -/
structure Printed (profile : Profile) (marks : List Mark) (session : Session Recorder) : Prop where
  profile_eq : session.profile = profile
  connected : session.isConnected = true
  whole : session.strips = false
  written : ∃ commands : List Command,
    session.sink.stream = commands.flatMap Command.bytes ∧
      (∀ command ∈ commands, command.IsReadable) ∧ Agrees commands session.style ∧
      ∀ mode : TextMode, mode.marksOf commands = marks

namespace Printed

variable {profile : Profile} {marks : List Mark} {session : Session Recorder}

/-- A fresh recorder has nothing printed. -/
theorem start (profile : Profile) :
    Printed profile [] (Session.start profile Recorder.fresh) where
  profile_eq := rfl
  connected := rfl
  whole := rfl
  written := ⟨[], rfl, List.forall_mem_nil _, fun _ => rfl, fun _ => rfl⟩

/-- All that was written is read back as the marks. -/
theorem read_stream (h : Printed profile marks session) (mode : TextMode) :
    (Reader.read session.sink.stream).map mode.marks = some marks := by
  obtain ⟨commands, stream, readable, -, same⟩ := h.written
  rw [stream, (Command.reads_flatMap_bytes readable).read_eq, Option.map_some, ← same mode]
  rfl

/-- A printable output succeeds and prints its marks. -/
theorem output (h : Printed profile marks session) {output : Output}
    (printable : output.IsPrintable profile.charset) :
    ∃ asked next, output.plan profile false session.style = .ok asked ∧
      output.run session = .ok () next ∧
      next.sink = (Sink.perform asked.moves session.sink).2 ∧
      Printed profile (marks ++ output.marks profile.charset) next := by
  obtain ⟨commands, stream, readable, agrees, same⟩ := h.written
  obtain ⟨asked, planned, more, shown⟩ := Output.marks_plan agrees printable
  obtain ⟨front, back, moves, known, quiet⟩ := Output.agrees_plan planned agrees
  have found := planned
  rw [← h.profile_eq, ← h.whole] at found
  obtain ⟨sink, ran, made, stays, grown⟩ := Output.run_of_plan h.connected found
  refine ⟨asked, _, planned, ran, made.symm, h.profile_eq, stays, h.whole,
    commands ++ Move.commands asked.moves, ?_, ?_, ?_, ?_⟩
  · rw [List.flatMap_append, ← stream]
    exact grown
  · rw [List.forall_mem_append]
    exact ⟨readable, more⟩
  · rw [moves, Move.commands_append, Move.commands_writes, ← List.append_assoc]
    exact known.append_quiet quiet
  · intro mode
    rw [shown, same]

/-- Printable outputs succeed and print their marks one after the other. -/
theorem runAll (h : Printed profile marks session) {outputs : List Output}
    (printable : ∀ output ∈ outputs, output.IsPrintable profile.charset) :
    ∃ next, Output.runAll outputs session = .ok () next ∧
      Printed profile (marks ++ outputs.flatMap (Output.marks profile.charset)) next := by
  induction outputs generalizing marks session with
  | nil =>
      refine ⟨session, rfl, ?_⟩
      rw [List.flatMap_nil, List.append_nil]
      exact h
  | cons first rest ih =>
      rw [List.forall_mem_cons] at printable
      obtain ⟨_, between, -, ran, -, printed⟩ := h.output printable.1
      obtain ⟨next, others, all⟩ := ih printed printable.2
      refine ⟨next, ?_, ?_⟩
      · rw [Output.runAll_cons, ran]
        exact others
      · rw [List.flatMap_cons, ← List.append_assoc]
        exact all

end Printed

end Session

end Receipt
