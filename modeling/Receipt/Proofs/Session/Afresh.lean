import Receipt.Proofs.Session.PrintJob
import Receipt.Proofs.Sink.Recorder

/-!
# Jobs start afresh

A job starts with a reset, so that the style that was set last plays no part in what it writes.  It
ends with a send, whatever its last line is and whether or not paper is fed, so that nothing waits
behind it.  Two sessions of one profile that print images in the same way therefore write the same
bytes for a job, whatever was done in them before.
-/

set_option autoImplicit false

namespace Receipt

namespace Failing

variable {σ : Type} [Sink σ]

/-- A send that a limit allows is a send of the sink behind it. -/
theorem send_of_ok {failing reached : Failing σ} {extra : Nat}
    (sent : Sink.send failing extra = (.ok (), reached)) :
    Sink.send failing.sink extra = (.ok (), reached.sink) := by
  cases asked : Sink.send failing.sink extra with
  | mk result left =>
      simp only [Sink.send, send] at sent asked
      rw [asked] at sent
      split at sent
      · cases sent
        rfl
      · cases sent
      · cases sent
        rfl

/-- Moves that a limit allows are made by the sink behind it. -/
theorem perform_of_ok {moves : List Move} {failing reached : Failing σ}
    (made : Sink.perform moves failing = (.ok (), reached)) :
    Sink.perform moves failing.sink = (.ok (), reached.sink) := by
  induction moves generalizing failing with
  | nil =>
      cases made
      rfl
  | cons move rest ih =>
      cases move with
      | write command => exact ih made
      | send extra =>
          obtain ⟨next, sent, further⟩ := Sink.perform_send_cons_eq_ok.mp made
          exact Sink.perform_send_cons_eq_ok.mpr ⟨next.sink, send_of_ok sent, ih further⟩

/-- Without a limit all moves are those of the sink behind it. -/
theorem perform_unlimited {moves : List Move} {failing : Failing σ}
    (unlimited : failing.remaining = none) {reached : σ}
    (made : Sink.perform moves failing.sink = (.ok (), reached)) :
    Sink.perform moves failing = (.ok (), { failing with sink := reached }) := by
  induction moves generalizing failing with
  | nil =>
      cases made
      rfl
  | cons move rest ih =>
      cases move with
      | write command =>
          have kept : (Sink.write failing command).remaining = none := unlimited
          exact ih kept made
      | send extra =>
          obtain ⟨next, sent, further⟩ := Sink.perform_send_cons_eq_ok.mp made
          have passed : Sink.send failing extra = (.ok (), { failing with sink := next }) := by
            simp only [Sink.send, send, unlimited] at sent ⊢
            rw [sent]
          have kept : ({ failing with sink := next } : Failing σ).remaining = none := unlimited
          exact Sink.perform_send_cons_eq_ok.mpr ⟨_, passed, ih kept further⟩

end Failing

namespace Output

/-- Whether the last of an output's moves is a send, whatever was done before. -/
def EndsWithSend (output : Output) : Prop :=
  ∀ (profile : Profile) (strips : Bool) (style : Option TextStyle), ∃ moves extra,
    output.plan profile strips style = .ok ⟨style, moves ++ [.send extra]⟩

/-- A feed ends with a send. -/
theorem endsWithSend_feed {dots : Nat} (positive : 0 < dots) : (feed dots).EndsWithSend := by
  intro profile strips style
  refine ⟨[.write (.feed dots)], dots, ?_⟩
  have some : dots ≠ 0 := Nat.pos_iff_ne_zero.mp positive
  rw [plan, if_neg some]
  rfl

/-- A flush ends with a send. -/
theorem endsWithSend_flush : flush.EndsWithSend :=
  fun _ _ _ => ⟨[], 0, rfl⟩

/-- A cut ends with a send. -/
theorem endsWithSend_cut : cut.EndsWithSend :=
  fun _ _ _ => ⟨[.write .cut], Action.mechanicalDelay, rfl⟩

/-- The pulse for the drawer ends with a send. -/
theorem endsWithSend_openDrawer : openDrawer.EndsWithSend :=
  fun _ _ _ => ⟨[.write .openDrawer], Action.mechanicalDelay, rfl⟩

/-- Whether the last of an output's moves is a send, whatever it does to the style. -/
def SendsLast (output : Output) : Prop :=
  ∀ (profile : Profile) (strips : Bool) (style : Option TextStyle) (plan : Plan),
    output.plan profile strips style = .ok plan →
      ∃ moves extra, plan.moves = moves ++ [.send extra]

/-- What ends with a send whatever the session has a send as its last move. -/
theorem EndsWithSend.sendsLast {output : Output} (sends : output.EndsWithSend) :
    output.SendsLast := by
  intro profile strips style plan planned
  obtain ⟨moves, extra, known⟩ := sends profile strips style
  rw [known] at planned
  cases planned
  exact ⟨moves, extra, rfl⟩

/-- The choice of a table has a send as its last move. -/
theorem sendsLast_table (id : UInt8) : (table id).SendsLast := by
  intro profile strips style plan planned
  cases planned
  exact ⟨_, 0, rfl⟩

/-- The moves of outputs end with a send if those of the last output do. -/
theorem exists_send_of_planAll {profile : Profile} {strips : Bool} {style : Option TextStyle}
    {front : List Output} {last : Output} (sends : last.SendsLast) {plan : Plan}
    (planned : planAll profile strips style (front ++ [last]) = .ok plan) :
    ∃ moves extra, plan.moves = moves ++ [.send extra] := by
  obtain ⟨first, others, -, later, rfl⟩ := planAll_append_eq_ok.mp planned
  obtain ⟨final, nothing, own, none, rfl⟩ := planAll_cons_eq_ok.mp later
  cases none
  obtain ⟨moves, extra, ended⟩ := sends profile strips first.style final own
  refine ⟨first.moves ++ moves, extra, ?_⟩
  rw [ended, List.append_nil, List.append_assoc]

end Output

namespace PrintJob

/-- What is done behind the lines of a document ends with a send. -/
theorem exists_last (job : PrintJob) (profile : Profile) (lines : List Markup.Line) :
    ∃ front last, job.outputs profile lines = front ++ [last] ∧ last.EndsWithSend := by
  -- A job without an ending ends with its feed, and without a feed what waits is sent.
  have finished : (if 0 < job.feedDots profile then Output.feed (job.feedDots profile)
      else .flush).EndsWithSend := by
    by_cases fed : 0 < job.feedDots profile
    · rw [if_pos fed]
      exact Output.endsWithSend_feed fed
    · rw [if_neg fed]
      exact Output.endsWithSend_flush
  cases job with
  | byDots text dots | byMm text feed | usual text =>
      refine ⟨.reset :: lines.flatMap Markup.Line.outputs, _, ?_, finished⟩
      exact List.append_nil _
  | andCut text feed => exact ⟨_, _, rfl, Output.endsWithSend_cut⟩
  | andOpenDrawer text feed =>
      exact ⟨_, _, List.append_cons _ Output.cut [.openDrawer], Output.endsWithSend_openDrawer⟩

/-- The plan of a job does not depend on the style that was set last. -/
theorem planAll_outputs (job : PrintJob) (profile : Profile) (lines : List Markup.Line)
    (strips : Bool) (style other : Option TextStyle) :
    Output.planAll profile strips style (job.outputs profile lines) =
      Output.planAll profile strips other (job.outputs profile lines) := by
  obtain ⟨rest, begins⟩ := job.outputs_eq_reset_cons profile lines
  rw [begins]
  rfl

/-- A connected recorder makes all moves of a job, and nothing waits behind them. -/
theorem perform_moves {job : PrintJob} {profile : Profile} {lines : List Markup.Line} {plan : Plan}
    {strips : Bool} {style : Option TextStyle}
    (planned : Output.planAll profile strips style (job.outputs profile lines) = .ok plan)
    {recorder : Recorder} (connected : recorder.connected = true) :
    ∃ next, Sink.perform plan.moves recorder = (.ok (), next) ∧
      next.stream = recorder.stream ++ (Move.commands plan.moves).flatMap Command.bytes ∧
      next.pending = [] := by
  obtain ⟨front, last, listed, sends⟩ := job.exists_last profile lines
  rw [listed] at planned
  obtain ⟨moves, extra, ended⟩ := Output.exists_send_of_planAll sends.sendsLast planned
  obtain ⟨next, made, -, stream⟩ := Recorder.perform_of_connected plan.moves connected
  have nothing := Recorder.pending_perform_send moves extra connected
  rw [← ended, made] at nothing
  exact ⟨next, made, stream, nothing⟩

end PrintJob

namespace Session

/-- A job does not depend on what was done before it, and leaves nothing behind.  Take two connected
sessions of one profile that print images in the same way, with any style set last, any alignment or
other setting of the printer, and any bytes that wait because a send was refused or never asked for.
If a job succeeds in one of them, it succeeds in the other as soon as that accepts sends, and appends
the same bytes to the streams of both.  Behind it nothing waits in either, so that all that was ever
written was sent. -/
theorem jobs_start_afresh {first second next : Session (Failing Recorder)} (job : PrintJob)
    (same_profile : first.profile = second.profile) (same_strips : first.strips = second.strips)
    (first_connected : first.isConnected = true) (second_connected : second.isConnected = true)
    (accepts : second.sink.remaining = none) (printed : job.run first = .ok () next) :
    ∃ bytes last, job.run second = .ok () last ∧
      next.sink.sink.stream = first.sink.sink.stream ++ bytes ∧
      last.sink.sink.stream = second.sink.sink.stream ++ bytes ∧
      next.sink.sink.pending = [] ∧ last.sink.sink.pending = [] ∧
      next.sink.sink.sent = first.sink.sink.stream ++ bytes ∧
      last.sink.sink.sent = second.sink.sink.stream ++ bytes := by
  obtain ⟨lines, parsed, ran⟩ := PrintJob.exists_lines_of_run_eq_ok printed
  obtain ⟨plan, planned, fulfilled⟩ := (Output.runAll_eq_ok first_connected).mp ran
  obtain ⟨reached, made, rfl⟩ := Action.fulfil_eq_ok.mp fulfilled
  obtain ⟨_, same, stream, nothing⟩ := PrintJob.perform_moves planned first_connected
  rw [Failing.perform_of_ok made] at same
  cases same
  -- The second session reads the same lines and plans the same moves, from the style set last in it.
  rw [same_profile] at parsed planned
  rw [same_strips, job.planAll_outputs _ _ _ _ second.style] at planned
  obtain ⟨recorder, performed, stream_last, nothing_last⟩ :=
    PrintJob.perform_moves planned second_connected
  have fulfilled_last : Action.fulfil plan second =
      .ok () ⟨second.profile, { second.sink with sink := recorder }, plan.style, second.strips⟩ :=
    Action.fulfil_eq_ok.mpr ⟨_, Failing.perform_unlimited accepts performed, rfl⟩
  have again := (Output.runAll_eq_ok second_connected).mpr ⟨plan, planned, fulfilled_last⟩
  rw [← job.run_of_parse_ok parsed] at again
  exact ⟨_, _, again, stream, stream_last, nothing, nothing_last,
    (Recorder.sent_eq_stream nothing).trans stream,
    (Recorder.sent_eq_stream nothing_last).trans stream_last⟩

/-- A session whose sink refused to send: a bold text, an alignment, the end of a line and the page of
a table were asked for, and all of it waits.  Now the sink accepts sends again. -/
def jammed : Session (Failing Recorder) :=
  let bold : TextStyle := { TextStyle.plain with weight := .bold }
  let history : List Operation := [.output (.text ['a'] bold), .output (.justify .right),
    .output (.newLine none), .output (.table 2)]
  let jam : Failing Recorder := ⟨Recorder.fresh, some 0, .connection (.reported "paper jam")⟩
  let behind := history.foldl
    (fun (session : Session (Failing Recorder)) operation => operation.run.state session)
    (start .mm58 jam)
  { behind with sink := { behind.sink with remaining := none } }

/-- A session in which nothing was done. -/
def unused : Session (Failing Recorder) :=
  start .mm58 ⟨Recorder.fresh, none, notConnected⟩

/-- A bar code alone, without a feed, is sent in both, in one of them behind all that waited. -/
theorem jobs_start_afresh_barcode :
    let job := PrintJob.byDots "<barcode type='ean8'>1234567</barcode>".toList 0
    let bytes : List UInt8 := [0x1b, 0x40, 0x1b, 0x61, 0x00, 0x1d, 0x48, 0x02, 0x1d, 0x77, 0x04,
      0x1d, 0x68, 0x50, 0x1d, 0x6b, 0x44, 0x08, 0x31, 0x32, 0x33, 0x34, 0x35, 0x36, 0x37, 0x30]
    jammed.sink.sink.pending ≠ [] ∧ ∃ next last, job.run unused = .ok () next ∧
      job.run jammed = .ok () last ∧ next.sink.sink.sent = bytes ∧
      last.sink.sink.pending = [] ∧ last.sink.sink.sent = jammed.sink.sink.pending ++ bytes := by
  intro job bytes
  have printed : ∃ next, job.run unused = .ok () next ∧ next.sink.sink.sent = bytes := by
    have checked : (match job.run unused with
        | .ok _ next => decide (next.sink.sink.sent = bytes)
        | .error _ _ => false) = true := by
      decide +kernel
    cases ran : job.run unused with
    | error failure left =>
        rw [ran] at checked
        cases checked
    | ok result next =>
        rw [ran] at checked
        exact ⟨next, rfl, of_decide_eq_true checked⟩
  obtain ⟨next, ran, known⟩ := printed
  obtain ⟨written, last, again, -, -, -, nothing, sent, all⟩ :=
    @jobs_start_afresh unused jammed next job rfl rfl rfl rfl rfl ran
  have same : written = bytes := sent.symm.trans known
  have unsent : jammed.sink.sink.sent = [] := by
    decide +kernel
  rw [same, Recorder.stream, unsent, List.nil_append] at all
  exact ⟨by decide +kernel, next, last, ran, again, known, nothing, all⟩

end Session

end Receipt
