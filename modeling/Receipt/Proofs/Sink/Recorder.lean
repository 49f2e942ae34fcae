import Receipt.Proofs.Session.Plan
import Receipt.Sink.Memory

/-!
# Moves on a recorder

A connected recorder takes every move: it keeps the bytes of all commands in order, and has nothing
left to send behind a send.
-/

set_option autoImplicit false

namespace Receipt.Recorder

/-- A connected recorder takes all moves and keeps the bytes of their commands. -/
theorem perform_of_connected (moves : List Move) {recorder : Recorder}
    (connected : recorder.connected = true) :
    ∃ next, Sink.perform moves recorder = (.ok (), next) ∧ next.connected = true ∧
      next.stream = recorder.stream ++ (Move.commands moves).flatMap Command.bytes := by
  induction moves generalizing recorder with
  | nil => exact ⟨recorder, rfl, connected, (List.append_nil _).symm⟩
  | cons move rest ih =>
      cases move with
      | write command =>
          have kept : (recorder.append command.bytes).connected = true := connected
          obtain ⟨next, made, stays, stream⟩ := ih kept
          refine ⟨next, made, stays, ?_⟩
          rw [stream, stream_append, List.append_assoc]
          rfl
      | send extra =>
          have kept : (recorder.flush extra).connected = true := connected
          have sent : Sink.send recorder extra = (.ok (), recorder.flush extra) := if_pos connected
          obtain ⟨next, made, stays, stream⟩ := ih kept
          refine ⟨next, ?_, stays, ?_⟩
          · rw [Sink.perform, sent]
            exact made
          · rw [stream, stream_flush]
            rfl

/-- Nothing waits behind moves that end with a send. -/
theorem pending_perform_send (moves : List Move) (extra : Nat) {recorder : Recorder}
    (connected : recorder.connected = true) :
    (Sink.perform (moves ++ [.send extra]) recorder).2.pending = [] := by
  obtain ⟨next, made, stays, -⟩ := perform_of_connected moves connected
  have sent : Sink.send next extra = (.ok (), next.flush extra) := if_pos stays
  have last : Sink.perform [.send extra] next = (.ok (), next.flush extra) := by
    rw [Sink.perform, sent]
    rfl
  rw [Sink.perform_append, made]
  simp only [last, pending_flush]

/-- With nothing waiting, all that was written was sent. -/
theorem sent_eq_stream {recorder : Recorder} (nothing : recorder.pending = []) :
    recorder.sent = recorder.stream := by
  rw [stream, nothing, List.append_nil]

end Receipt.Recorder
