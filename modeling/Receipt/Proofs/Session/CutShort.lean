import Receipt.Proofs.Session.Failures
import Receipt.Proofs.Sink.Parcels

/-!
# A job that is cut short

A job on a connected recorder makes a number of parcels.  If the sink refuses every send behind the
first few, the same job fails with the sink's failure after exactly these parcels, and what the next
one should have carried waits.  So nothing is lost and nothing is sent that a whole job would not
have sent by then.
-/

set_option autoImplicit false

namespace Receipt

/-- The session on another sink. -/
def Session.onSink {σ τ : Type} (session : Session σ) (sink : τ) : Session τ :=
  ⟨session.profile, sink, session.style, session.strips⟩

namespace PrintJob

/-- A job that succeeds on a recorder has a plan, and makes the parcels of its moves. -/
theorem sends_run {job : PrintJob} {session next : Session Recorder}
    (connected : session.isConnected = true) (printed : job.run session = .ok () next) :
    ∃ lines plan, Markup.Document.parse session.profile Qr.encode job.text = .ok lines ∧
      Output.planAll session.profile session.strips session.style
        (job.outputs session.profile lines) = .ok plan ∧
      next.sink.sends =
        session.sink.sends ++ Move.parcels session.sink.pending plan.moves := by
  obtain ⟨lines, parsed, ran⟩ := exists_lines_of_run_eq_ok printed
  obtain ⟨plan, planned, fulfilled⟩ := (Output.runAll_eq_ok connected).mp ran
  obtain ⟨reached, made, rfl⟩ := Action.fulfil_eq_ok.mp fulfilled
  have sends := Recorder.sends_perform plan.moves connected
  rw [made] at sends
  exact ⟨lines, plan, parsed, planned, sends⟩

/-- A job with a plan fails behind a limit that its moves reach. -/
theorem run_limited {job : PrintJob} {session : Session Recorder}
    (connected : session.isConnected = true) {lines : List Markup.Line} {plan : Plan}
    (parsed : Markup.Document.parse session.profile Qr.encode job.text = .ok lines)
    (planned : Output.planAll session.profile session.strips session.style
      (job.outputs session.profile lines) = .ok plan)
    (failure : Failure) {limit : Nat}
    (reached : limit < (Move.parcels session.sink.pending plan.moves).length) :
    ∃ left, job.run (session.onSink (⟨session.sink, some limit, failure⟩ : Failing Recorder)) =
        .error failure left ∧
      left.sink.sink.sends = session.sink.sends ++
        (Move.parcels session.sink.pending plan.moves).take limit ∧
      left.sink.sink.pending =
        (Move.parcels session.sink.pending plan.moves)[limit].bytes := by
  -- The limit is not known to the plan: profile, style and way of printing images are the same.
  let limited := session.onSink (⟨session.sink, some limit, failure⟩ : Failing Recorder)
  have stays : limited.isConnected = true := connected
  have parsed_limited : Markup.Document.parse limited.profile Qr.encode job.text = .ok lines :=
    parsed
  obtain ⟨kept, made, sends, pending⟩ :=
    Failing.perform_limited plan.moves connected failure reached
  have made_limited : Sink.perform plan.moves limited.sink = (.error failure, kept) := made
  obtain ⟨left, ran, rfl⟩ := Output.runAll_of_perform_error stays planned made_limited
  refine ⟨left, ?_, sends, pending⟩
  rw [job.run_of_parse_ok parsed_limited]
  exact ran

end PrintJob

namespace Session

/-- A job that is cut short leaves an exact beginning of the whole job.  Let a job succeed on a
connected recorder, with some parcels, each delayed for its bytes and the extra delay of its send.
On the same recorder behind a limit below the number of these parcels it fails with the failure of
the sink; the parcels up to the limit were sent and logged, and the bytes of the next one wait.
Whatever is written, sent, refused or given up, all bytes written are in the stream in order, and the
log has the size and the delay of each parcel, so that its sizes add up to the number of bytes
sent. -/
theorem jobs_cut_short :
    (∀ (session next : Session Recorder) (job : PrintJob), session.isConnected = true →
      job.run session = .ok () next →
      ∃ lines plan parcels,
        Markup.Document.parse session.profile Qr.encode job.text = .ok lines ∧
        Output.planAll session.profile session.strips session.style
          (job.outputs session.profile lines) = .ok plan ∧
        next.sink.sends = session.sink.sends ++ parcels ∧
        List.Forall₂
          (fun parcel extra =>
            parcel.delay = (extra + parcel.bytes.length / 16) % 18446744073709551616)
          parcels (Move.extras plan.moves) ∧
        ∀ (failure : Failure) (limit : Nat) (reached : limit < parcels.length),
          ∃ left : Session (Failing Recorder),
            job.run (session.onSink ⟨session.sink, some limit, failure⟩) = .error failure left ∧
            left.sink.sink.sends = session.sink.sends ++ parcels.take limit ∧
            left.sink.sink.sent =
              session.sink.sent ++ (parcels.take limit).flatMap Parcel.bytes ∧
            left.sink.sink.flushes.toList =
              session.sink.flushes.toList ++ (parcels.take limit).map Parcel.flush ∧
            left.sink.sink.pending = parcels[limit].bytes) ∧
    ∀ (events : List Failing.Event) (failing : Failing Recorder),
      let final := events.foldl Failing.Event.apply failing
      final.sink.stream = failing.sink.stream ++ events.flatMap Failing.Event.written ∧
        final.sink.sends.flatMap Parcel.bytes = final.sink.sent ∧
        final.sink.sends.map Parcel.flush = final.sink.flushes.toList ∧
        (final.sink.flushes.toList.map Flush.size).sum = final.sink.sent.length := by
  refine ⟨?_, ?_⟩
  · intro session next job connected printed
    obtain ⟨lines, plan, parsed, planned, sends⟩ := PrintJob.sends_run connected printed
    refine ⟨lines, plan, _, parsed, planned, sends,
      Move.delays_parcels session.sink.pending plan.moves, ?_⟩
    intro failure limit reached
    obtain ⟨left, ran, kept, waiting⟩ :=
      PrintJob.run_limited connected parsed planned failure reached
    refine ⟨left, ran, kept, ?_, ?_, waiting⟩
    · rw [← Recorder.flatMap_bytes_sends, kept, List.flatMap_append,
        Recorder.flatMap_bytes_sends]
    · rw [← Recorder.map_flush_sends, kept, List.map_append, Recorder.map_flush_sends]
  · intro events failing final
    exact ⟨Failing.Event.stream_foldl_apply events failing, final.sink.flatMap_bytes_sends,
      final.sink.map_flush_sends, (Flush.total_eq_sum _).symm.trans final.sink.sizes_sum⟩

/-- A fresh session on a recorder that holds one byte. -/
def holdingByte : Session Recorder :=
  start .mm58 (Recorder.fresh.append [0x41])

/-- What its job of one letter sends first: the held byte, a reset, the letter in plain settings, the
spaces behind it in the same ones, and a line feed. -/
def letterParcel : Parcel :=
  ⟨[0x41, 0x1b, 0x40, 0x1b, 0x74, 0x06, 0x1d, 0x21, 0x00, 0x1b, 0x47, 0x00, 0x1b, 0x2d, 0x00, 0x1b,
    0x45, 0x00, 0x1b, 0x72, 0x00, 0x1d, 0x42, 0x00, 0x61, 0x1b, 0x74, 0x06] ++
    List.replicate 31 0x20 ++ [0x0a], 3⟩

/-- Behind a limit of one send the job makes that parcel, and the feed waits. -/
theorem jobs_cut_short_before_feed :
    let jam := Failure.connection (.reported "paper jam")
    ∃ left : Session (Failing Recorder),
      (PrintJob.byDots ['a'] 5).run (holdingByte.onSink ⟨holdingByte.sink, some 1, jam⟩) =
          .error jam left ∧
        left.sink.sink.sends = [letterParcel] ∧ left.sink.sink.sent = letterParcel.bytes ∧
        left.sink.sink.flushes.toList = [⟨60, 3⟩] ∧
        left.sink.sink.pending = [0x1b, 0x4a, 0x05] := by
  intro jam
  have parsed : Markup.Document.parse holdingByte.profile Qr.encode ['a'] = .ok [letterLine] := by
    decide +kernel
  have printed : ∃ next, (PrintJob.byDots ['a'] 5).run holdingByte = .ok () next ∧
      next.sink.sends = [letterParcel, ⟨[0x1b, 0x4a, 0x05], 5⟩] := by
    rw [PrintJob.run_of_parse_ok (.byDots ['a'] 5) parsed]
    exact ⟨_, rfl, by decide +kernel⟩
  obtain ⟨next, ran, all⟩ := printed
  obtain ⟨_, _, parcels, -, -, sends, -, cut⟩ := jobs_cut_short.1 holdingByte next _ rfl ran
  have known : parcels = [letterParcel, ⟨[0x1b, 0x4a, 0x05], 5⟩] := sends.symm.trans all
  subst known
  obtain ⟨left, failed, kept, sent, logged, waiting⟩ := cut jam 1 (by decide)
  exact ⟨left, failed, kept, sent.trans (List.append_nil _), logged, waiting⟩

end Session

end Receipt
