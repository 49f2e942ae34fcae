import Receipt.Job
import Receipt.Proofs.Session.Plan

/-!
# Histories of a session

An operation is whatever a caller may ask of a session: a single output, a print job, a change of
the way images are printed, or the end of the connection.  Every operation comes down to steps,
which are taken one after the other up to the first that fails; a document that cannot be read has
no steps.  A history is a list of operations, each of which goes on from where the one before
stopped, also when that one failed.  The calls of a history are its steps, each with the session it
finds.
-/

set_option autoImplicit false

namespace Receipt

/-- The session behind an action, whether or not the action fails. -/
def Action.state {σ : Type} (action : Action σ Unit) (session : Session σ) : Session σ :=
  match action session with
  | .ok _ next => next
  | .error _ left => left

namespace Action

variable {σ α β : Type}

/-- An action for two lists is that for one behind the other. -/
theorem forM_append (front back : List α) (action : α → Action σ Unit) :
    (front ++ back).forM action = (do front.forM action; back.forM action) :=
  List.forM_append

/-- An action for each part of each item is that for all parts. -/
theorem forM_flatMap (items : List α) (parts : α → List β) (action : β → Action σ Unit) :
    (items.flatMap parts).forM action = items.forM (fun item => (parts item).forM action) := by
  induction items with
  | nil => rfl
  | cons item rest ih =>
      rw [List.flatMap_cons, forM_append, ih]
      rfl

/-- An action for changed items changes each item first. -/
theorem forM_map (items : List α) (change : α → β) (action : β → Action σ Unit) :
    (items.map change).forM action = items.forM (fun item => action (change item)) :=
  List.forM_map

/-- An action for one item is done once. -/
theorem forM_singleton (item : α) (action : α → Action σ Unit) :
    [item].forM action = action item :=
  bind_pure_unit

end Action

/-- What a session does at a time. -/
inductive Step where
  | output (output : Output)
  | useStrips (enable : Bool)
  | disconnect

/-- A step and the session it finds. -/
structure Call (σ : Type) where
  session : Session σ
  step : Step

namespace Step

variable {σ : Type} [Sink σ]

/-- Take a step. -/
def run : Step → Action σ Unit
  | output asked => asked.run
  | useStrips enable => modify (fun session => session.useStrips enable)
  | disconnect => modify Session.disconnect

/-- Take steps one after the other, up to the first that fails. -/
def runAll (steps : List Step) : Action σ Unit :=
  steps.forM run

/-- The steps that are taken until one fails, each with the session it finds. -/
def calls : List Step → Session σ → List (Call σ)
  | [], _ => []
  | step :: rest, session =>
    ⟨session, step⟩ ::
      match step.run session with
      | .ok _ next => calls rest next
      | .error _ _ => []

end Step

namespace Markup

/-- The outputs of an element. -/
def Element.outputs : Element → List Output
  | .text run => [.text run.text run.style]
  | .image placed => [.image placed.image]
  | .qr _ placed => [.image placed.image]
  | .barcode placed => [.justify placed.alignment, .barcode placed.barcode]

/-- The outputs of a line. -/
def Line.outputs (line : Line) : List Output :=
  line.elements.flatMap Element.outputs ++ if line.endsWithText then [.newLine none] else []

/-- The outputs of a document with a feed behind it. -/
def Document.outputs (lines : List Line) (dots : Nat) : List Output :=
  .reset :: (lines.flatMap Line.outputs ++ [if 0 < dots then .feed dots else .flush])

end Markup

/-- Make outputs one after the other, up to the first that fails. -/
def Output.runAll {σ : Type} [Sink σ] (outputs : List Output) : Action σ Unit :=
  outputs.forM Output.run

namespace Action

variable {σ : Type} [Sink σ]

/-- An element is printed by its outputs. -/
theorem emit_eq_runAll (element : Markup.Element) :
    (emit element : Action σ Unit) = Output.runAll element.outputs := by
  cases element with
  | text run | image placed | qr payload placed => exact (forM_singleton _ _).symm
  | barcode placed =>
      have last := forM_singleton (Output.barcode placed.barcode) (Output.run (σ := σ))
      exact congrArg (fun next => (do justify placed.alignment; next)) last.symm

/-- A line is printed by its outputs. -/
theorem printLine_eq_runAll (line : Markup.Line) :
    (printLine line : Action σ Unit) = Output.runAll line.outputs := by
  have elements : (line.elements.forM emit : Action σ Unit) =
      Output.runAll (line.elements.flatMap Markup.Element.outputs) := by
    rw [Output.runAll, forM_flatMap]
    exact congrArg line.elements.forM (funext emit_eq_runAll)
  unfold printLine Markup.Line.outputs
  rw [elements, Output.runAll, Output.runAll, forM_append]
  split
  · rw [forM_singleton]
    rfl
  · rfl

/-- Lines are printed by the outputs of their document. -/
theorem printLines_eq_runAll (lines : List Markup.Line) (dots : Nat) :
    (printLines lines dots : Action σ Unit) =
      Output.runAll (Markup.Document.outputs lines dots) := by
  have printed : (lines.forM printLine : Action σ Unit) =
      Output.runAll (lines.flatMap Markup.Line.outputs) := by
    rw [Output.runAll, forM_flatMap]
    exact congrArg lines.forM (funext printLine_eq_runAll)
  have finished : (finish dots : Action σ Unit) =
      Output.runAll [if 0 < dots then .feed dots else .flush] := by
    rw [Output.runAll, forM_singleton]
    unfold finish
    split <;> rfl
  have unfolded : (printLines lines dots : Action σ Unit) =
      (do Output.run .reset; lines.forM printLine; finish dots) := rfl
  rw [unfolded, printed, finished, Output.runAll, Output.runAll, ← forM_append]
  rfl

end Action

/-- What a caller may ask of a session. -/
inductive Operation where
  | output (output : Output)
  | useStrips (enable : Bool)
  | disconnect
  | printDots (text : List Char) (dots : Nat)
  | printMm (text : List Char) (feed : Number.Single)
  | print (text : List Char)
  | printAndCut (text : List Char) (feed : Number.Single)
  | printAndOpenDrawer (text : List Char) (feed : Number.Single)
  | printTables (ids : List UInt8)
  | printAllTables

namespace Operation

variable {σ : Type} [Sink σ]

/-- The operation itself. -/
def run : Operation → Action σ Unit
  | output asked => asked.run
  | useStrips enable => modify (fun session => session.useStrips enable)
  | disconnect => modify Session.disconnect
  | printDots text dots => Action.printDots text dots
  | printMm text feed => Action.printMm text feed
  | print text => Action.print text
  | printAndCut text feed => Action.printAndCut text feed
  | printAndOpenDrawer text feed => Action.printAndOpenDrawer text feed
  | printTables ids => Action.printTables ids
  | printAllTables => Action.printAllTables

/-- The steps of a job: those of its document, and others behind them. -/
def jobSteps (profile : Profile) (text : List Char) (dots : Nat) (behind : List Output) :
    Except Failure (List Step) :=
  match Markup.Document.parse profile Qr.encode text with
  | .ok lines => .ok ((Markup.Document.outputs lines dots ++ behind).map .output)
  | .error failure => .error failure

/-- The dots of a feed that a job takes. -/
def feedDots (profile : Profile) (feed : Number.Single) : Nat :=
  (profile.mmToPx feed).toNat

/-- The steps of an operation, or why its document cannot be read. -/
def steps (profile : Profile) : Operation → Except Failure (List Step)
  | output asked => .ok [.output asked]
  | useStrips enable => .ok [.useStrips enable]
  | disconnect => .ok [.disconnect]
  | printDots text dots => jobSteps profile text dots []
  | printMm text feed => jobSteps profile text (feedDots profile feed) []
  | print text => jobSteps profile text (feedDots profile Action.standardFeed) []
  | printAndCut text feed => jobSteps profile text (feedDots profile feed) [.cut]
  | printAndOpenDrawer text feed =>
    jobSteps profile text (feedDots profile feed) [.cut, .openDrawer]
  | printTables ids => .ok (ids.map (fun id => .output (.table id)))
  | printAllTables => .ok (Action.allBytes.map (fun id => .output (.table id)))

/-- The calls of an operation. -/
def calls (operation : Operation) (session : Session σ) : List (Call σ) :=
  match operation.steps session.profile with
  | .ok steps => Step.calls steps session
  | .error _ => []

/-- The calls of a history. -/
def historyCalls : List Operation → Session σ → List (Call σ)
  | [], _ => []
  | operation :: rest, session =>
    operation.calls session ++ historyCalls rest (operation.run.state session)

/-- The outputs of a job are its steps. -/
theorem printDots_then (text : List Char) (dots : Nat) (behind : List Output)
    (session : Session σ) :
    (do Action.printDots text dots; Output.runAll behind : Action σ Unit) session =
      match jobSteps session.profile text dots behind with
      | .ok steps => Step.runAll steps session
      | .error failure => .error failure session := by
  rw [Action.printDots, bind_assoc, Action.get_bind_apply, jobSteps]
  cases Markup.Document.parse session.profile Qr.encode text with
  | error failure => rfl
  | ok lines =>
      have steps : (Step.runAll ((Markup.Document.outputs lines dots ++ behind).map .output) :
          Action σ Unit) = (do Action.printLines lines dots; Output.runAll behind) := by
        rw [Action.printLines_eq_runAll, Output.runAll, Output.runAll, ← Action.forM_append]
        exact Action.forM_map _ _ _
      simp only [steps]
      rfl

/-- An operation is its steps. -/
theorem run_eq (operation : Operation) (session : Session σ) :
    operation.run session =
      match operation.steps session.profile with
      | .ok steps => Step.runAll steps session
      | .error failure => .error failure session := by
  -- A job with nothing behind its document is printed without a second action to bind.
  have alone (text : List Char) (dots : Nat) :
      Action.printDots text dots session =
        match jobSteps session.profile text dots [] with
        | .ok steps => Step.runAll steps session
        | .error failure => .error failure session := by
    rw [← printDots_then]
    exact (congrFun bind_pure_unit session).symm
  cases operation with
  | output asked =>
      exact (congrFun (Action.forM_singleton (Step.output asked) Step.run) session).symm
  | useStrips enable => rfl
  | disconnect => rfl
  | printDots text dots => exact alone text dots
  | printMm text feed => exact alone text (feedDots session.profile feed)
  | print text => exact alone text (feedDots session.profile Action.standardFeed)
  | printAndCut text feed =>
      rw [steps, ← printDots_then, Output.runAll, Action.forM_singleton]
      rfl
  | printAndOpenDrawer text feed =>
      have pair : (Output.runAll [.cut, .openDrawer] : Action σ Unit) =
          (do Action.cut; Action.openDrawer) :=
        congrArg (fun next : Action σ Unit => (do Action.cut; next : Action σ Unit))
          (Action.forM_singleton .openDrawer Output.run)
      rw [steps, ← printDots_then, pair, ← bind_assoc]
      rfl
  | printTables ids =>
      exact (congrFun (Action.forM_map ids (fun id => .output (.table id)) Step.run) session).symm
  | printAllTables =>
      exact (congrFun (Action.forM_map Action.allBytes (fun id => .output (.table id)) Step.run)
        session).symm

/-- What every step keeps holds of the sessions that steps find, and of the one behind them. -/
theorem holds_of_mem_stepCalls {holds : Session σ → Prop}
    (kept : ∀ (step : Step) (session : Session σ), holds session → holds (step.run.state session))
    (steps : List Step) {session : Session σ} (start : holds session) :
    (∀ call ∈ Step.calls steps session, holds call.session) ∧
      holds ((Step.runAll steps).state session) := by
  induction steps generalizing session with
  | nil => exact ⟨List.forall_mem_nil _, start⟩
  | cons step rest ih =>
      have next_holds := kept step session start
      have unfolded : (Step.runAll (step :: rest) : Action σ Unit) =
          (do step.run; Step.runAll rest) := rfl
      rw [Step.calls, List.forall_mem_cons, unfolded]
      simp only [Action.state, bind, EStateM.bind] at next_holds ih ⊢
      cases taken : step.run session with
      | ok result next =>
          rw [taken] at next_holds
          have others := ih next_holds
          exact ⟨⟨start, others.1⟩, others.2⟩
      | error failure left =>
          -- A step that fails ends the calls, but the session that it leaves counts.
          rw [taken] at next_holds
          exact ⟨⟨start, List.forall_mem_nil _⟩, next_holds⟩

/-- What every step keeps holds of the session behind an operation. -/
theorem holds_state {holds : Session σ → Prop}
    (kept : ∀ (step : Step) (session : Session σ), holds session → holds (step.run.state session))
    (operation : Operation) {session : Session σ} (start : holds session) :
    holds (operation.run.state session) := by
  have found := operation.run_eq session
  cases asked : operation.steps session.profile with
  | error failure =>
      simp only [asked] at found
      simpa only [Action.state, found] using start
  | ok steps =>
      simp only [asked] at found
      have behind := (holds_of_mem_stepCalls kept steps start).2
      simpa only [Action.state, found] using behind

/-- What every step keeps holds of every session that a call of a history finds. -/
theorem holds_of_mem_historyCalls {holds : Session σ → Prop}
    (kept : ∀ (step : Step) (session : Session σ), holds session → holds (step.run.state session))
    (history : List Operation) {session : Session σ} (start : holds session) :
    ∀ call ∈ historyCalls history session, holds call.session := by
  induction history generalizing session with
  | nil => exact List.forall_mem_nil _
  | cons operation rest ih =>
      intro call mem
      rcases List.mem_append.mp mem with now | later
      · unfold calls at now
        split at now
        · exact (holds_of_mem_stepCalls kept _ start).1 call now
        · cases now
      · exact ih (holds_state kept operation start) call later

end Operation

end Receipt
