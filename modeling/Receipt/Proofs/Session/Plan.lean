import Receipt.Session

/-!
# What an output asks of its sink

Every output of a session is decided before the sink is touched: either it is refused, or it comes
down to a list of moves, writes and sends, and a style to remember.  The moves are made one after
the other, up to the first send that fails.  A connected session does exactly that, and a session
without a connection does nothing.
-/

set_option autoImplicit false

namespace Receipt

/-- What is asked of a sink. -/
inductive Move where
  | write (command : Command)
  | send (extra : Nat)
  deriving DecidableEq

/-- The commands among moves. -/
def Move.commands (moves : List Move) : List Command :=
  moves.filterMap (fun move =>
    match move with
    | write command => some command
    | send _ => none)

/-- Moves that send each command at once. -/
def Move.sendEach (commands : List Command) : List Move :=
  commands.flatMap (fun command => [write command, send 0])

namespace Sink

variable {σ : Type} [Sink σ]

/-- Make moves one after the other, up to the first send that fails. -/
def perform : List Move → σ → Except Failure Unit × σ
  | [], sink => (.ok (), sink)
  | .write command :: rest, sink => perform rest (Sink.write sink command)
  | .send extra :: rest, sink =>
    match Sink.send sink extra with
    | (.ok (), sent) => perform rest sent
    | (.error failure, left) => (.error failure, left)

/-- Moves behind others are made unless those fail. -/
theorem perform_append (front back : List Move) (sink : σ) :
    perform (front ++ back) sink =
      match perform front sink with
      | (.ok (), reached) => perform back reached
      | (.error failure, left) => (.error failure, left) := by
  induction front generalizing sink with
  | nil => rfl
  | cons move rest ih =>
      cases move with
      | write command => exact ih (Sink.write sink command)
      | send extra =>
          simp only [List.cons_append, perform]
          cases Sink.send sink extra with
          | mk result left =>
              cases result with
              | ok => exact ih left
              | error failure => rfl

/-- Writes alone never fail. -/
theorem perform_writes_append (commands : List Command) (rest : List Move) (sink : σ) :
    perform (commands.map .write ++ rest) sink =
      perform rest (commands.foldl Sink.write sink) := by
  induction commands generalizing sink with
  | nil => rfl
  | cons command others ih => exact ih (Sink.write sink command)

end Sink

namespace Action

/-- What follows a look at the session is done with it. -/
theorem get_bind_apply {σ : Type} (next : Session σ → Action σ Unit) (session : Session σ) :
    (get >>= next : Action σ Unit) session = next session session :=
  rfl

variable {σ : Type} [Sink σ]

/-- Make moves on the sink of a session. -/
def perform (moves : List Move) : Action σ Unit := fun session =>
  match Sink.perform moves session.sink with
  | (.ok (), sink) => .ok () { session with sink := sink }
  | (.error failure, sink) => .error failure { session with sink := sink }

/-- As an action, moves behind others are made behind them. -/
theorem perform_append (front back : List Move) :
    (perform (front ++ back) : Action σ Unit) = (do perform front; perform back) := by
  funext session
  have joined := Sink.perform_append front back session.sink
  cases made : Sink.perform front session.sink with
  | mk result left =>
      rw [made] at joined
      cases result <;> simp only [perform, joined, bind, EStateM.bind, made]

/-- A write is a move. -/
theorem write_eq_perform (command : Command) :
    (write command : Action σ Unit) = perform [.write command] :=
  rfl

/-- A send is a move. -/
theorem send_eq_perform (extra : Nat) :
    (send extra : Action σ Unit) = perform [.send extra] := by
  funext session
  simp only [send, perform, Sink.perform]
  cases Sink.send session.sink extra with
  | mk result left => cases result <;> rfl

/-- Writes are moves one behind the other. -/
theorem writeAll_eq_perform (commands : List Command) :
    (writeAll commands : Action σ Unit) = perform (commands.map .write) := by
  induction commands with
  | nil => rfl
  | cons command rest ih =>
      have unfolded : (writeAll (command :: rest) : Action σ Unit) =
          (do write command; writeAll rest) := rfl
      rw [unfolded, ih, write_eq_perform, ← perform_append]
      rfl

/-- Commands that are each sent are moves one behind the other. -/
theorem sendEach_eq_perform (commands : List Command) :
    (sendEach commands : Action σ Unit) = perform (Move.sendEach commands) := by
  induction commands with
  | nil => rfl
  | cons command rest ih =>
      have unfolded : (sendEach (command :: rest) : Action σ Unit) =
          (do (do write command; send 0); sendEach rest) := rfl
      rw [unfolded, ih, send_eq_perform, write_eq_perform, ← perform_append, ← perform_append]
      rfl

/-- Writes do not fail. -/
theorem perform_writes (commands : List Command) (session : Session σ) :
    perform (commands.map .write) session =
      .ok () { session with sink := commands.foldl Sink.write session.sink } := by
  have made := Sink.perform_writes_append commands [] session.sink
  rw [List.append_nil, Sink.perform] at made
  simp only [perform, made]

/-- An action under the condition of a connection. -/
theorem whenConnected_apply (action : Action σ Unit) (session : Session σ) :
    whenConnected action session =
      if session.isConnected then action session else .ok () session := by
  rw [whenConnected, get_bind_apply]
  split <;> rfl

end Action

/-- What a session does only while it is connected. -/
inductive Output where
  | reset
  | justify (alignment : Alignment)
  | text (content : List Char) (style : TextStyle)
  | image (picture : Raster)
  | barcode (code : Barcode)
  | qr (model : Qr.Model) (content : List Char) (moduleSize : Int)
  | newLine (alignment : Option Alignment)
  | feed (dots : Nat)
  | flush
  | cut
  | openDrawer
  | table (id : UInt8)

/-- The moves of an output, and the style that the session remembers. -/
structure Plan where
  style : Option TextStyle
  moves : List Move

namespace Output

/-- The output itself. -/
def run {σ : Type} [Sink σ] : Output → Action σ Unit
  | reset => Action.reset
  | justify alignment => Action.justify alignment
  | text content style => Action.printText content style
  | image picture => Action.printImage picture
  | barcode code => Action.printBarcode code
  | qr model content moduleSize => Action.printQr model content moduleSize
  | newLine alignment => Action.newLine alignment
  | feed dots => Action.feedPaper dots
  | flush => Action.flush
  | cut => Action.cut
  | openDrawer => Action.openDrawer
  | table id => Action.printTable id

/-- The commands in front of the bytes of a text: the table and the settings that change. -/
def textOpening (profile : Profile) (previous : Option TextStyle) (style : TextStyle) :
    List Command :=
  .selectTable profile.charset.id :: (style.changes previous).map .set

/-- What an output comes down to for a profile, a way of printing images and the style that was set
last, or why it is refused. -/
def plan (profile : Profile) (strips : Bool) (style : Option TextStyle) :
    Output → Except Failure Plan
  | reset => .ok ⟨none, [.write .reset]⟩
  | justify alignment => .ok ⟨style, [.write (.justify alignment)]⟩
  | text content wanted =>
    match profile.charset.encode content with
    | .ok bytes =>
      .ok ⟨some wanted, (textOpening profile style wanted ++ [Command.text bytes]).map .write⟩
    | .error failure => .error failure
  | image picture =>
    match Action.imageCommands strips picture with
    | .ok commands => .ok ⟨style, Move.sendEach commands⟩
    | .error failure => .error failure
  | barcode code => .ok ⟨style, [.write (.barcode code)]⟩
  | qr model content moduleSize => .ok ⟨style, [.write (.qr model content moduleSize)]⟩
  | newLine alignment =>
    .ok ⟨style, [.write .lineFeed, .send 0] ++ (alignment.toList.map .justify).map .write⟩
  | feed dots => .ok ⟨style, if dots = 0 then [] else [.write (.feed dots), .send dots]⟩
  | flush => .ok ⟨style, [.send 0]⟩
  | cut => .ok ⟨style, [.write .cut, .send Action.mechanicalDelay]⟩
  | openDrawer => .ok ⟨style, [.write .openDrawer, .send Action.mechanicalDelay]⟩
  | table id => .ok ⟨some .plain, (Action.tableCommands id).map .write ++ [.send 0]⟩

end Output

/-- Remember the style of a plan and make its moves. -/
def Action.fulfil {σ : Type} [Sink σ] (plan : Plan) : Action σ Unit := fun session =>
  Action.perform plan.moves { session with style := plan.style }

namespace Output

variable {σ : Type} [Sink σ]

/-- Without a connection an output does nothing. -/
theorem run_of_not_connected (output : Output) {session : Session σ}
    (h : session.isConnected = false) : output.run session = .ok () session := by
  cases output <;>
    simp only [run, Action.reset, Action.justify, Action.printText, Action.printImage,
      Action.printBarcode, Action.printQr, Action.newLine, Action.feedPaper, Action.flush,
      Action.cut, Action.openDrawer, Action.printTable, Action.whenConnected_apply, h,
      Bool.false_eq_true, if_false]

/-- An output on a connected session is refused or does what its plan says. -/
theorem run_of_connected (output : Output) {session : Session σ}
    (h : session.isConnected = true) :
    output.run session =
      match output.plan session.profile session.strips session.style with
      | .ok plan => Action.fulfil plan session
      | .error failure => .error failure session := by
  cases output with
  | reset | justify alignment | barcode code | qr model content moduleSize =>
      simp only [run, Action.reset, Action.justify, Action.printBarcode, Action.printQr,
        Action.whenConnected_apply, h, if_true]
      rfl
  | flush =>
      simp only [run, Action.flush, Action.whenConnected_apply, h, if_true,
        Action.send_eq_perform]
      rfl
  | cut | openDrawer =>
      simp only [run, Action.cut, Action.openDrawer, Action.whenConnected_apply, h, if_true,
        Action.send_eq_perform, Action.write_eq_perform, ← Action.perform_append]
      rfl
  | feed dots =>
      simp only [run, Action.feedPaper, Action.whenConnected_apply, h, if_true,
        Action.send_eq_perform, Action.write_eq_perform, ← Action.perform_append, plan]
      split <;> rfl
  -- Without an alignment the action ends with the send, and nothing is left to join.
  | newLine alignment =>
      cases alignment with
      | none =>
          simp only [run, Action.newLine, Action.whenConnected_apply, h, if_true,
            Action.send_eq_perform, Action.write_eq_perform, bind_pure_unit,
            ← Action.perform_append]
          rfl
      | some alignment =>
          simp only [run, Action.newLine, Action.whenConnected_apply, h, if_true,
            Action.send_eq_perform, Action.write_eq_perform, ← Action.perform_append]
          rfl
  | text content style =>
      simp only [run, plan, Action.printText, Action.whenConnected_apply, h, if_true,
        Action.get_bind_apply, Action.continueWith]
      cases session.profile.charset.encode content with
      | error failure => rfl
      | ok bytes =>
          simp only [Action.fulfil, Action.perform_writes, Action.writeAll_eq_perform,
            Action.write_eq_perform, bind, EStateM.bind, List.foldl_append]
          rfl
  | image picture =>
      simp only [run, plan, Action.printImage, Action.whenConnected_apply, h, if_true,
        Action.get_bind_apply, Action.continueWith]
      cases Action.imageCommands session.strips picture with
      | error failure => rfl
      | ok commands => exact congrFun (Action.sendEach_eq_perform commands) session
  | table id =>
      simp only [run, plan, Action.printTable, Action.whenConnected_apply, h, if_true, bind,
        EStateM.bind, Action.writeAll_eq_perform, Action.perform_writes, Action.fulfil,
        Action.send_eq_perform]
      simp only [Action.perform, Sink.perform_writes_append]
      rfl

end Output

end Receipt
