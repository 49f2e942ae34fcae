import Receipt.Proofs.Session.Afresh
import Receipt.Proofs.Session.Printed
import Receipt.Proofs.Sink.Device

/-!
# Sinks that take every move

Some sinks take every move while something is known of them: a recorder while it is connected, and a
device sink while it writes to a file.  On such a sink outputs succeed exactly if they can be
planned, and the bytes it holds then are those of the plan, so that two such sinks agree.  Outputs
that end with a send leave nothing waiting.
-/

set_option autoImplicit false

namespace Receipt

/-- The bytes that a plan writes. -/
def Plan.bytes (plan : Plan) : List UInt8 :=
  (Move.commands plan.moves).flatMap Command.bytes

/-- A description of sinks by the bytes that were written to them, under which a sink is connected,
takes every write and makes every send. -/
structure Sink.Takes {σ : Type} [Sink σ] (holds : List UInt8 → σ → Prop) : Prop where
  isConnected {bytes : List UInt8} {sink : σ} (h : holds bytes sink) : Sink.isConnected sink = true
  write {bytes : List UInt8} {sink : σ} (h : holds bytes sink) (command : Command) :
    holds (bytes ++ command.bytes) (Sink.write sink command)
  send {bytes : List UInt8} {sink : σ} (h : holds bytes sink) (extra : Nat) :
    ∃ next, Sink.send sink extra = (.ok (), next) ∧ holds bytes next

/-- A recorder that is connected and was written some bytes. -/
def Recorder.Holds (bytes : List UInt8) (recorder : Recorder) : Prop :=
  recorder.connected = true ∧ recorder.stream = bytes

/-- A connected recorder takes every move. -/
theorem Recorder.takes : Sink.Takes Recorder.Holds where
  isConnected h := h.1
  write := by
    rintro bytes recorder ⟨connected, rfl⟩ command
    exact ⟨connected, stream_append recorder command.bytes⟩
  send := by
    rintro bytes recorder ⟨connected, rfl⟩ extra
    exact ⟨recorder.flush extra, if_pos connected, connected, stream_flush recorder extra⟩

namespace DeviceSink

/-- A sink that writes bytes to a file of a store: those that were sent are in the file, and nothing
else is; the others wait. -/
def WritesTo (store : FileStore) (place : Place) (bytes : List UInt8) (sink : DeviceSink) : Prop :=
  ∃ sent, sink.store = store.set place (.file (Content.empty.overwrite 0 sent)) ∧
    sink.handle = some ⟨place, sent.length⟩ ∧ sent ++ sink.pending = bytes

/-- A device sink that writes to a file takes every move. -/
theorem takes {store : FileStore} {place : Place} (nested : place ≠ []) :
    Sink.Takes (WritesTo store place) where
  isConnected := by
    rintro bytes sink ⟨sent, -, opened, -⟩
    exact congrArg Option.isSome opened
  write := by
    rintro bytes sink ⟨sent, stored, opened, rfl⟩ command
    refine ⟨sent, stored, opened, ?_⟩
    change sent ++ (sink.waiting.append command.bytes).toList = _
    rw [Log.toList_append, ← List.append_assoc]
    rfl
  send := by
    rintro bytes sink ⟨sent, stored, opened, rfl⟩ extra
    have found : sink.store.entry? place = some (.file (Content.empty.overwrite 0 sent)) := by
      rw [stored, FileStore.entry?_set_self nested]
    -- The file ends where the handle stands, so that what waits goes behind what was sent.
    have appended := Content.overwrite_append .empty 0 sent sink.pending
    rw [Nat.zero_add] at appended
    let next : DeviceSink :=
      { sink with
        store := store.set place (.file (Content.empty.overwrite 0 (sent ++ sink.pending)))
        handle := some ⟨place, (sent ++ sink.pending).length⟩
        waiting := .empty }
    have flushed : sink.flush = (.ok (), next) := by
      rw [flush_of_handle opened, FileStore.writeAt_of_file sink.pending found]
      simp only [next, stored, FileStore.set_set, appended, List.length_append]
    exact ⟨next, flushed, sent ++ sink.pending, rfl, rfl, List.append_nil _⟩

end DeviceSink

namespace Sink.Takes

variable {σ : Type} [Sink σ] {holds : List UInt8 → σ → Prop} {bytes : List UInt8}

/-- All moves are made, and their bytes are written. -/
theorem perform (takes : Sink.Takes holds) (moves : List Move) {sink : σ}
    (start : holds bytes sink) :
    ∃ next, Sink.perform moves sink = (.ok (), next) ∧
      holds (bytes ++ (Move.commands moves).flatMap Command.bytes) next := by
  induction moves generalizing sink bytes with
  | nil => exact ⟨sink, rfl, by simpa [Move.commands] using start⟩
  | cons move rest ih =>
      cases move with
      | write command =>
          obtain ⟨next, made, held⟩ := ih (takes.write start command)
          refine ⟨next, made, ?_⟩
          rw [List.append_assoc] at held
          exact held
      | send extra =>
          obtain ⟨middle, sent, kept⟩ := takes.send start extra
          obtain ⟨next, made, held⟩ := ih kept
          refine ⟨next, ?_, held⟩
          rw [Sink.perform, sent]
          exact made

/-- Outputs succeed if they can be planned, and write the bytes of their plan; if they cannot, they
fail for that reason. -/
theorem runAll (takes : Sink.Takes holds) (outputs : List Output) {session : Session σ}
    (start : holds bytes session.sink) :
    match Output.planAll session.profile session.strips session.style outputs with
    | .ok plan => ∃ next, Output.runAll outputs session = .ok () next ∧
        holds (bytes ++ plan.bytes) next.sink
    | .error failure => ∃ left, Output.runAll outputs session = .error failure left := by
  induction outputs generalizing session bytes with
  | nil => exact ⟨session, rfl, by simpa [Plan.bytes, Move.commands] using start⟩
  | cons output rest ih =>
      rw [Output.planAll, Output.runAll_cons, output.run_of_connected (takes.isConnected start)]
      cases output.plan session.profile session.strips session.style with
      | error failure => exact ⟨session, rfl⟩
      | ok first =>
          obtain ⟨middle, made, held⟩ := takes.perform first.moves start
          -- The invariant speaks of all bytes so far, so that the first plan's are added to them.
          have fulfilled := Action.fulfil_eq_ok.mpr ⟨middle, made, rfl⟩
          have behind := @ih (bytes ++ first.bytes)
            { session with style := first.style, sink := middle } held
          simp only [fulfilled, bind, Except.bind]
          cases later : Output.planAll session.profile session.strips first.style rest with
          | error failure =>
              rw [later] at behind
              exact behind
          | ok others =>
              rw [later] at behind
              obtain ⟨next, ran, all⟩ := behind
              refine ⟨next, ran, ?_⟩
              rw [List.append_assoc] at all
              simpa [Plan.bytes, Move.commands_append] using all

/-- Two sinks that take every move agree on outputs: both are written the bytes of their plan, or
the outputs fail for the same reason on both. -/
theorem runAll_agree {τ : Type} [Sink τ] {also : List UInt8 → τ → Prop} {others : List UInt8}
    (one : Sink.Takes holds) (other : Sink.Takes also) (outputs : List Output)
    (first : Session σ) (second : Session τ) (same_profile : first.profile = second.profile)
    (same_strips : first.strips = second.strips) (same_style : first.style = second.style)
    (first_start : holds bytes first.sink) (second_start : also others second.sink) :
    (∃ (plan : Plan) (next : Session σ) (last : Session τ),
      Output.runAll outputs first = .ok () next ∧
        Output.runAll outputs second = .ok () last ∧ holds (bytes ++ plan.bytes) next.sink ∧
        also (others ++ plan.bytes) last.sink) ∨
      ∃ failure left remaining, Output.runAll outputs first = .error failure left ∧
        Output.runAll outputs second = .error failure remaining := by
  have on_first := one.runAll outputs first_start
  have on_second := other.runAll outputs second_start
  rw [same_profile, same_strips, same_style] at on_first
  cases planned : Output.planAll second.profile second.strips second.style outputs with
  | error failure =>
      rw [planned] at on_first on_second
      obtain ⟨left, refused⟩ := on_first
      obtain ⟨remaining, also_refused⟩ := on_second
      exact Or.inr ⟨failure, left, remaining, refused, also_refused⟩
  | ok plan =>
      rw [planned] at on_first on_second
      obtain ⟨next, ran, held⟩ := on_first
      obtain ⟨last, also_ran, also_held⟩ := on_second
      exact Or.inl ⟨plan, next, last, ran, also_ran, held, also_held⟩

end Sink.Takes

namespace DeviceSink

/-- Nothing waits behind moves that end with a send. -/
theorem pending_of_perform_send {moves : List Move} {extra : Nat} {sink next : DeviceSink}
    (made : Sink.perform (moves ++ [.send extra]) sink = (.ok (), next)) : next.pending = [] := by
  rw [Sink.perform_append] at made
  split at made
  · next middle =>
      obtain ⟨behind, sent, last⟩ := Sink.perform_send_cons_eq_ok.mp made
      cases last
      exact pending_of_send sent
  · cases made

/-- Nothing waits behind outputs the last of which ends with a send. -/
theorem pending_of_runAll {front : List Output} {last : Output} (sends : last.SendsLast)
    {session next : Session DeviceSink} (connected : session.isConnected = true)
    (ran : Output.runAll (front ++ [last]) session = .ok () next) : next.sink.pending = [] := by
  obtain ⟨plan, planned, fulfilled⟩ := (Output.runAll_eq_ok connected).mp ran
  obtain ⟨moves, extra, ended⟩ := Output.exists_send_of_planAll sends planned
  obtain ⟨reached, made, rfl⟩ := Action.fulfil_eq_ok.mp fulfilled
  rw [ended] at made
  exact pending_of_perform_send made

end DeviceSink

end Receipt
