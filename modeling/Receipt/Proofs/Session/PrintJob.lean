import Receipt.Proofs.Session.Outputs

/-!
# Print jobs

A document can be printed in five ways, which differ in how the feed is given and in what is done
behind it.  Each of them reads the document first.  If that succeeds, the job makes the outputs of
the document and those behind it; if not, the job fails for that reason and does nothing.
-/

set_option autoImplicit false

namespace Receipt

/-- The ways in which a document is printed. -/
inductive PrintJob where
  | byDots (text : List Char) (dots : Nat)
  | byMm (text : List Char) (feed : Number.Single)
  | usual (text : List Char)
  | andCut (text : List Char) (feed : Number.Single)
  | andOpenDrawer (text : List Char) (feed : Number.Single)

namespace PrintJob

/-- The job itself. -/
def run {σ : Type} [Sink σ] : PrintJob → Action σ Unit
  | byDots text dots => Action.printDots text dots
  | byMm text feed => Action.printMm text feed
  | usual text => Action.print text
  | andCut text feed => Action.printAndCut text feed
  | andOpenDrawer text feed => Action.printAndOpenDrawer text feed

/-- The document that is printed. -/
def text : PrintJob → List Char
  | byDots text _ => text
  | byMm text _ => text
  | usual text => text
  | andCut text _ => text
  | andOpenDrawer text _ => text

/-- The dots of the feed behind the document. -/
def feedDots (profile : Profile) : PrintJob → Nat
  | byDots _ dots => dots
  | byMm _ feed => Operation.feedDots profile feed
  | usual _ => Operation.feedDots profile Action.standardFeed
  | andCut _ feed => Operation.feedDots profile feed
  | andOpenDrawer _ feed => Operation.feedDots profile feed

/-- What is done behind the feed. -/
def ending : PrintJob → List Output
  | byDots _ _ => []
  | byMm _ _ => []
  | usual _ => []
  | andCut _ _ => [.cut]
  | andOpenDrawer _ _ => [.cut, .openDrawer]

/-- The outputs of a job whose document has the given lines. -/
def outputs (profile : Profile) (lines : List Markup.Line) (job : PrintJob) : List Output :=
  Markup.Document.outputs lines (job.feedDots profile) ++ job.ending

/-- The operation of a caller that is the job. -/
def operation : PrintJob → Operation
  | byDots text dots => .printDots text dots
  | byMm text feed => .printMm text feed
  | usual text => .print text
  | andCut text feed => .printAndCut text feed
  | andOpenDrawer text feed => .printAndOpenDrawer text feed

/-- The steps of a job as an operation are those of its text, feed and ending. -/
theorem steps_operation (job : PrintJob) (profile : Profile) :
    job.operation.steps profile =
      Operation.jobSteps profile job.text (job.feedDots profile) job.ending := by
  cases job <;> rfl

section

variable {σ : Type} [Sink σ]

/-- A job runs as its operation does. -/
theorem run_eq_operation (job : PrintJob) : (job.run : Action σ Unit) = job.operation.run := by
  cases job <;> rfl

/-- A job whose text can be read runs its outputs. -/
theorem run_of_parse_ok (job : PrintJob) {session : Session σ} {lines : List Markup.Line}
    (parsed : Markup.Document.parse session.profile Qr.encode job.text = .ok lines) :
    job.run session = Output.runAll (job.outputs session.profile lines) session := by
  rw [run_eq_operation, Operation.run_eq, steps_operation, Operation.jobSteps, parsed]
  exact congrFun (Action.forM_map _ Step.output Step.run) session

/-- A job whose document cannot be read fails for that reason and changes nothing. -/
theorem run_of_parse_error (job : PrintJob) {session : Session σ} {failure : Failure}
    (broken : Markup.Document.parse session.profile Qr.encode job.text = .error failure) :
    job.run session = .error failure session := by
  rw [run_eq_operation, Operation.run_eq, steps_operation, Operation.jobSteps, broken]

/-- A job that succeeds has read its document and made its outputs. -/
theorem exists_lines_of_run_eq_ok {job : PrintJob} {session next : Session σ}
    (printed : job.run session = .ok () next) :
    ∃ lines, Markup.Document.parse session.profile Qr.encode job.text = .ok lines ∧
      Output.runAll (job.outputs session.profile lines) session = .ok () next := by
  cases parsed : Markup.Document.parse session.profile Qr.encode job.text with
  | error failure =>
      rw [job.run_of_parse_error parsed] at printed
      cases printed
  | ok lines =>
      rw [job.run_of_parse_ok parsed] at printed
      exact ⟨lines, rfl, printed⟩

end

/-- The first output of a job is a reset. -/
theorem outputs_eq_reset_cons (job : PrintJob) (profile : Profile) (lines : List Markup.Line) :
    ∃ rest, job.outputs profile lines = .reset :: rest :=
  ⟨_, rfl⟩

end PrintJob

end Receipt
