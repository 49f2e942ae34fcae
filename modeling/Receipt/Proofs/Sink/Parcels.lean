import Mathlib.Algebra.Ring.Nat
import Mathlib.Data.List.Forall2
import Receipt.Proofs.Sink.Recorder

/-!
# What sends carry

Every send of a recorder makes a parcel of all that waits.  Which parcels some moves make is known
before they are made: it depends on the bytes that wait at first and on the moves alone.  A recorder
behind a limit makes the first of these parcels and no others; what would have been the next one
waits.  Whatever is refused, no byte is lost, doubled or moved to another place.
-/

set_option autoImplicit false

namespace Receipt

/-- What some sends carried is the sum of their sizes. -/
theorem Flush.total_eq_sum (entries : List Flush) :
    Flush.total entries = (entries.map Flush.size).sum := by
  induction entries with
  | nil => rfl
  | cons entry rest ih =>
      rw [List.map_cons, List.sum_cons, ← ih]
      rfl

namespace Move

/-- The extra delays of the sends among moves. -/
def extras : List Move → List Nat
  | [] => []
  | write _ :: rest => extras rest
  | send extra :: rest => extra :: extras rest

/-- The parcels of moves behind some bytes that wait. -/
def parcels (waiting : List UInt8) : List Move → List Parcel
  | [] => []
  | write command :: rest => parcels (waiting ++ command.bytes) rest
  | send extra :: rest => ⟨waiting, pacingDelay extra waiting.length⟩ :: parcels [] rest

/-- The delay of a parcel is the extra delay of its send and that of its bytes, as a word of 64
bits. -/
theorem delays_parcels (waiting : List UInt8) (moves : List Move) :
    List.Forall₂
      (fun parcel extra =>
        parcel.delay = (extra + parcel.bytes.length / 16) % 18446744073709551616)
      (parcels waiting moves) (extras moves) := by
  induction moves generalizing waiting with
  | nil => exact .nil
  | cons move rest ih =>
      cases move with
      | write command => exact ih (waiting ++ command.bytes)
      | send extra => exact .cons (Number.unsigned64_eq_mod _) (ih [])

end Move

namespace Recorder

/-- A connected recorder makes the parcels of its moves. -/
theorem sends_perform (moves : List Move) {recorder : Recorder}
    (connected : recorder.connected = true) :
    (Sink.perform moves recorder).2.sends =
      recorder.sends ++ Move.parcels recorder.pending moves := by
  induction moves generalizing recorder with
  | nil => exact (List.append_nil _).symm
  | cons move rest ih =>
      cases move with
      | write command =>
          have kept : (recorder.append command.bytes).connected = true := connected
          have later := ih kept
          rw [pending_append, sends_append] at later
          exact later
      | send extra =>
          have kept : (recorder.flush extra).connected = true := connected
          have sent : Sink.send recorder extra = (.ok (), recorder.flush extra) := if_pos connected
          have later := ih kept
          rw [pending_flush, sends_flush, List.append_assoc] at later
          rw [Sink.perform, sent]
          exact later

end Recorder

namespace Failing

/-- A connected recorder behind a limit makes as many parcels of its moves as the limit allows.  The
send behind them is refused, and what it should have carried waits. -/
theorem perform_limited (moves : List Move) {recorder : Recorder}
    (connected : recorder.connected = true) (failure : Failure) {limit : Nat}
    (reached : limit < (Move.parcels recorder.pending moves).length) :
    ∃ left : Failing Recorder,
      Sink.perform moves (⟨recorder, some limit, failure⟩ : Failing Recorder) =
        (.error failure, left) ∧
      left.sink.sends = recorder.sends ++ (Move.parcels recorder.pending moves).take limit ∧
      left.sink.pending = (Move.parcels recorder.pending moves)[limit].bytes := by
  induction moves generalizing recorder limit with
  | nil => exact absurd reached (Nat.not_lt_zero limit)
  | cons move rest ih =>
      cases move with
      | write command =>
          have kept : (recorder.append command.bytes).connected = true := connected
          have waiting := recorder.pending_append command.bytes
          have begun : limit <
              (Move.parcels (recorder.append command.bytes).pending rest).length := by
            rw [waiting]
            exact reached
          obtain ⟨left, made, sends, pending⟩ := ih kept begun
          simp only [waiting] at sends pending
          exact ⟨left, made, sends, pending⟩
      -- The limit counts down with the sends, and the one that finds none left is refused.
      | send extra =>
          cases limit with
          | zero =>
              refine ⟨⟨recorder, some 0, failure⟩, rfl, ?_, rfl⟩
              rw [List.take_zero, List.append_nil]
          | succ limit =>
              have kept : (recorder.flush extra).connected = true := connected
              have sent : Sink.send recorder extra = (.ok (), recorder.flush extra) :=
                if_pos connected
              have begun : limit < (Move.parcels (recorder.flush extra).pending rest).length := by
                rw [Recorder.pending_flush]
                exact Nat.lt_of_succ_lt_succ reached
              obtain ⟨left, made, sends, pending⟩ := ih kept begun
              simp only [Recorder.pending_flush, Recorder.sends_flush, List.append_assoc]
                at sends pending
              refine ⟨left, ?_, sends, pending⟩
              have counted : Sink.send (⟨recorder, some (limit + 1), failure⟩ : Failing Recorder)
                  extra = (.ok (), ⟨recorder.flush extra, some limit, failure⟩) := by
                simp only [Sink.send, send] at sent ⊢
                rw [sent]
              rw [Sink.perform, counted]
              exact made

/-- What may happen to a recorder behind a limit: a write, a send, which may be refused, a new limit,
or the end of its connection. -/
inductive Event where
  | write (command : Command)
  | send (extra : Nat)
  | limit (remaining : Option Nat)
  | disconnect

namespace Event

/-- The recorder behind an event. -/
def apply (failing : Failing Recorder) : Event → Failing Recorder
  | write command => Sink.write failing command
  | send extra => (Sink.send failing extra).2
  | limit remaining => { failing with remaining := remaining }
  | disconnect => Sink.disconnect failing

/-- The bytes that an event writes. -/
def written : Event → List UInt8
  | write command => command.bytes
  | send _ => []
  | limit _ => []
  | disconnect => []

/-- An event appends what it writes to the stream, whether or not a send is refused. -/
theorem stream_apply (failing : Failing Recorder) (event : Event) :
    (apply failing event).sink.stream = failing.sink.stream ++ event.written := by
  have asked (extra : Nat) :
      (Sink.send failing.sink extra).2.stream = failing.sink.stream := by
    simp only [Sink.send]
    split
    · exact failing.sink.stream_flush extra
    · rfl
  cases event with
  | write command => exact failing.sink.stream_append command.bytes
  | limit remaining => exact (List.append_nil _).symm
  | disconnect => exact (List.append_nil _).symm
  | send extra =>
      rw [written, List.append_nil]
      simp only [apply, Sink.send, Failing.send]
      split
      · exact asked extra
      · rfl
      · exact asked extra

/-- Events append what they write to the stream, one after the other. -/
theorem stream_foldl_apply (events : List Event) (failing : Failing Recorder) :
    (events.foldl apply failing).sink.stream =
      failing.sink.stream ++ events.flatMap written := by
  induction events generalizing failing with
  | nil => exact (List.append_nil _).symm
  | cons event rest ih =>
      rw [List.foldl_cons, ih, stream_apply, List.flatMap_cons, List.append_assoc]

end Event

end Failing

end Receipt
