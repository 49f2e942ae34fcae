import Receipt.Proofs.Session.Failures
import Receipt.Proofs.Sink.Transcript

/-!
# Sessions without a connection

A sink at rest has no connection, and giving it up once more changes nothing.  Outputs look for the
connection before they do anything else, the other steps do not write, and none of them connects.
So a history of a session at rest leaves the sink as it is.  What can still fail is the reading of a
document, which comes before any output.
-/

set_option autoImplicit false

namespace Receipt

/-- A sink without a connection that giving up leaves as it is. -/
structure Sink.AtRest {σ : Type} [Sink σ] (sink : σ) : Prop where
  not_connected : Sink.isConnected sink = false
  disconnect_eq : Sink.disconnect sink = sink

/-- A sink that is at rest once it is given up. -/
class Sink.Settling (σ : Type) [Sink σ] : Prop where
  atRest_disconnect (sink : σ) : Sink.AtRest (Sink.disconnect sink)

instance : Sink.Settling Recorder where
  atRest_disconnect _ := ⟨rfl, rfl⟩

instance : Sink.Settling DeviceSink where
  atRest_disconnect _ := ⟨rfl, rfl⟩

instance {σ : Type} [Sink σ] [Sink.Settling σ] : Sink.Settling (Failing σ) where
  atRest_disconnect failing :=
    have inner := Sink.Settling.atRest_disconnect failing.sink
    ⟨inner.not_connected, congrArg (fun sink => { failing with sink }) inner.disconnect_eq⟩

/-- A recorder without a connection rests. -/
theorem Recorder.atRest {recorder : Recorder} (unconnected : recorder.connected = false) :
    Sink.AtRest recorder := by
  refine ⟨unconnected, ?_⟩
  cases recorder
  cases unconnected
  rfl

/-- Whether an action fails, and why. -/
def Action.outcome {σ : Type} (action : Action σ Unit) (session : Session σ) :
    Except Failure Unit :=
  match action session with
  | .ok _ _ => .ok ()
  | .error failure _ => .error failure

namespace Step

variable {σ : Type} [Sink σ]

/-- A step of a session at rest succeeds and keeps the sink and the profile. -/
theorem run_atRest (step : Step) {session : Session σ} (rest : Sink.AtRest session.sink) :
    ∃ next, step.run session = .ok () next ∧ next.sink = session.sink ∧
      next.profile = session.profile := by
  cases step with
  | output asked => exact ⟨session, asked.run_of_not_connected rest.not_connected, rfl, rfl⟩
  | useStrips enable => exact ⟨session.useStrips enable, rfl, rfl, rfl⟩
  | disconnect => exact ⟨session.disconnect, rfl, rest.disconnect_eq, rfl⟩

/-- Steps leave a sink at rest as it is. -/
theorem runAll_atRest (steps : List Step) {session : Session σ}
    (rest : Sink.AtRest session.sink) :
    ∃ next, runAll steps session = .ok () next ∧ next.sink = session.sink ∧
      next.profile = session.profile := by
  induction steps generalizing session with
  | nil => exact ⟨session, rfl, rfl, rfl⟩
  | cons step others ih =>
      obtain ⟨middle, taken, sink, profile⟩ := step.run_atRest rest
      rw [← sink] at rest
      obtain ⟨next, ran, later_sink, later_profile⟩ := ih rest
      have unfolded : (runAll (step :: others) : Action σ Unit) =
          (do step.run; runAll others) := rfl
      refine ⟨next, ?_, later_sink.trans sink, later_profile.trans profile⟩
      rw [unfolded]
      simp only [bind, EStateM.bind, taken, ran]

end Step

namespace Operation

/-- The document that an operation prints. -/
def document? : Operation → Option (List Char)
  | printDots text _ => some text
  | printMm text _ => some text
  | print text => some text
  | printAndCut text _ => some text
  | printAndOpenDrawer text _ => some text
  | _ => none

/-- Whether the document of an operation can be read; an operation without one has nothing to
read. -/
def reading (profile : Profile) (operation : Operation) : Except Failure Unit :=
  match operation.document? with
  | some text => (fun _ => ()) <$> Markup.Document.parse profile Qr.encode text
  | none => .ok ()

/-- An operation has steps exactly if its document can be read. -/
theorem reading_eq (profile : Profile) (operation : Operation) :
    operation.reading profile = (fun _ => ()) <$> operation.steps profile := by
  have job (text : List Char) (dots : Nat) (behind : List Output) :
      (fun _ => ()) <$> Markup.Document.parse profile Qr.encode text =
        (fun _ => ()) <$> jobSteps profile text dots behind := by
    unfold jobSteps
    cases Markup.Document.parse profile Qr.encode text <;> rfl
  cases operation with
  | output asked => rfl
  | useStrips enable => rfl
  | disconnect => rfl
  | printTables ids => rfl
  | printAllTables => rfl
  | printDots text dots => exact job text dots []
  | printMm text feed => exact job text (feedDots profile feed) []
  | print text => exact job text (feedDots profile Action.standardFeed) []
  | printAndCut text feed => exact job text (feedDots profile feed) [.cut]
  | printAndOpenDrawer text feed => exact job text (feedDots profile feed) [.cut, .openDrawer]

variable {σ : Type} [Sink σ]

/-- An operation on a session at rest fails only if its document cannot be read, and keeps the sink
and the profile. -/
theorem run_atRest (operation : Operation) {session : Session σ}
    (rest : Sink.AtRest session.sink) :
    operation.run.outcome session = operation.reading session.profile ∧
      (operation.run.state session).sink = session.sink ∧
      (operation.run.state session).profile = session.profile := by
  rw [reading_eq, Action.outcome, Action.state, run_eq]
  cases operation.steps session.profile with
  | error failure => exact ⟨rfl, rfl, rfl⟩
  | ok steps =>
      obtain ⟨next, ran, sink, profile⟩ := Step.runAll_atRest steps rest
      simp only [ran]
      exact ⟨rfl, sink, profile⟩

/-- The session behind a history. -/
def after (history : List Operation) (session : Session σ) : Session σ :=
  history.foldl (fun reached operation => operation.run.state reached) session

/-- Which operations of a history fail, and why. -/
def outcomes : List Operation → Session σ → List (Except Failure Unit)
  | [], _ => []
  | operation :: rest, session =>
    operation.run.outcome session :: outcomes rest (operation.run.state session)

/-- A history of a session at rest keeps its sink, and fails where a document cannot be read. -/
theorem after_atRest (history : List Operation) {session : Session σ}
    (rest : Sink.AtRest session.sink) :
    (after history session).sink = session.sink ∧
      outcomes history session = history.map (reading session.profile) := by
  induction history generalizing session with
  | nil => exact ⟨rfl, rfl⟩
  | cons operation others ih =>
      obtain ⟨outcome, sink, profile⟩ := operation.run_atRest rest
      rw [← sink] at rest
      obtain ⟨kept, later⟩ := ih rest
      refine ⟨kept.trans sink, ?_⟩
      rw [outcomes, outcome, later, profile, List.map_cons]

end Operation

namespace Session

variable {σ : Type} [Sink σ] [Sink.Settling σ]

/-- Nothing reaches a sink without a connection.  Let any history of operations follow the end of a
session's connection.  It leaves the sink as it was just behind that end, and so without a
connection, and its operations succeed but for those that print a document which cannot be read,
whose failure is that of reading it.  The same holds of a session on a recorder that has no
connection to begin with: the bytes it has sent, those that wait and its log of sends stay what they
are. -/
theorem nothing_without_connection (history : List Operation) :
    (∀ session : Session σ,
      let reached := Operation.after history session.disconnect
      reached.sink = Sink.disconnect session.sink ∧ reached.isConnected = false ∧
        Operation.outcomes history session.disconnect =
          history.map (Operation.reading session.profile)) ∧
    ∀ session : Session Recorder, session.isConnected = false →
      let reached := Operation.after history session
      reached.isConnected = false ∧ reached.sink.sent = session.sink.sent ∧
        reached.sink.pending = session.sink.pending ∧ reached.sink.sends = session.sink.sends ∧
        Operation.outcomes history session = history.map (Operation.reading session.profile) := by
  refine ⟨?_, ?_⟩
  · intro session reached
    have rest := Sink.Settling.atRest_disconnect session.sink
    obtain ⟨sink, outcomes⟩ := @Operation.after_atRest σ _ history session.disconnect rest
    refine ⟨sink, ?_, outcomes⟩
    rw [isConnected, sink]
    exact rest.not_connected
  · intro session unconnected reached
    obtain ⟨sink, outcomes⟩ := Operation.after_atRest history (Recorder.atRest unconnected)
    have same : reached.sink = session.sink := sink
    rw [isConnected, same]
    exact ⟨unconnected, rfl, rfl, rfl, outcomes⟩

/-- A history that asks for strips of a picture too wide for them, a text that the code page lacks,
jobs of a good and of a bad document, and the end of the connection once more. -/
def vainHistory : List Operation :=
  [.useStrips true, .output (.image wideRows), .output (.text ['☃'] .plain),
    .printAndCut "<b>Total</b>".toList (Number.Single.ofNat 5), .disconnect,
    .printDots "<barcode type='nope'>1</barcode>".toList 8, .output .cut]

/-- A session whose recorder lost the connection with a send behind it and a line feed waiting. -/
def lost : Session Recorder :=
  start .mm58
    ⟨false, Log.empty.append [0x0a], Log.empty.append [0x1b, 0x40], Log.empty.push ⟨2, 0⟩, rfl⟩

/-- The history in vain leaves the recorder of the lost session as it is; a connected session would
refuse the picture and the text. -/
theorem nothing_without_connection_lost :
    let reached := Operation.after vainHistory lost
    lost.isConnected = false ∧ reached.isConnected = false ∧
      reached.sink.sent = [0x1b, 0x40] ∧ reached.sink.pending = [0x0a] ∧
      reached.sink.sends = [⟨[0x1b, 0x40], 0⟩] ∧
      Operation.outcomes vainHistory lost =
        [.ok (), .ok (), .ok (), .ok (), .ok (),
          .error (.markup (.unknownSymbology "nope".toList)), .ok ()] ∧
      Action.imageCommands true wideRows = .error (.image (.tooWideForStrips 65536)) ∧
      ∃ failure, lost.profile.charset.encode ['☃'] = .error failure := by
  intro reached
  obtain ⟨still, sent, pending, sends, outcomes⟩ :=
    (@nothing_without_connection Recorder _ _ vainHistory).2 lost rfl
  have readings : vainHistory.map (Operation.reading lost.profile) =
      [.ok (), .ok (), .ok (), .ok (), .ok (),
        .error (.markup (.unknownSymbology "nope".toList)), .ok ()] := by
    decide +kernel
  refine ⟨rfl, still, sent.trans ?_, pending.trans ?_, sends.trans ?_, outcomes.trans readings,
    rfl, ?_⟩
  · decide +kernel
  · decide +kernel
  · decide +kernel
  · exact ⟨_, rfl⟩

end Session

end Receipt
