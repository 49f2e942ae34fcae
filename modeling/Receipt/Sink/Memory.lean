import Receipt.Log
import Receipt.Sink

/-!
# Sinks in memory

A recorder keeps all it was sent, and beside it the size and the delay of every send.  The sizes add
up to what was sent, so that the bytes of each send can be cut out again.  A recorder may also be set
to fail: after so many sends every later one is refused before it does anything.
-/

set_option autoImplicit false

namespace Receipt

/-- The entry of a send in a log: how many bytes it carried, and the delay behind it in
milliseconds. -/
structure Flush where
  size : Nat
  delay : Nat
  deriving DecidableEq, Repr

/-- How many bytes some sends carried. -/
def Flush.total (entries : List Flush) : Nat :=
  entries.foldr (fun entry rest => entry.size + rest) 0

/-- A send behind some others carries its bytes besides theirs. -/
@[simp] theorem Flush.total_concat (entries : List Flush) (last : Flush) :
    Flush.total (entries ++ [last]) = Flush.total entries + last.size := by
  induction entries with
  | nil => simp [total]
  | cons entry rest ih =>
      simp only [total, List.cons_append, List.foldr_cons] at ih ⊢
      rw [ih, Nat.add_assoc]

/-- What one send carried, and the delay behind it in milliseconds. -/
structure Parcel where
  bytes : List UInt8
  delay : Nat
  deriving DecidableEq, Repr

namespace Parcel

/-- The entry of a parcel. -/
def flush (parcel : Parcel) : Flush :=
  ⟨parcel.bytes.length, parcel.delay⟩

/-- The parcels of some sends, cut out of the bytes that they carried one after the other. -/
def cut : List Flush → List UInt8 → List Parcel
  | [], _ => []
  | entry :: rest, bytes =>
    ⟨bytes.take entry.size, entry.delay⟩ :: cut rest (bytes.drop entry.size)

/-- The bytes behind those of the first of some sends are those of the others. -/
theorem sizes_behind {entry : Flush} {rest : List Flush} {bytes : List UInt8}
    (sizes : Flush.total (entry :: rest) = bytes.length) :
    entry.size ≤ bytes.length ∧
      Flush.total rest = (bytes.drop entry.size).length := by
  have added : entry.size + Flush.total rest = bytes.length := sizes
  rw [List.length_drop]
  omega

/-- The last parcel is cut out of the last bytes. -/
theorem cut_concat {entries : List Flush} {bytes : List UInt8}
    (sizes : Flush.total entries = bytes.length) (last : Parcel) :
    cut (entries ++ [last.flush]) (bytes ++ last.bytes) = cut entries bytes ++ [last] := by
  induction entries generalizing bytes with
  | nil =>
      obtain rfl := List.eq_nil_of_length_eq_zero sizes.symm
      simp [cut, flush]
  | cons entry rest ih =>
      obtain ⟨within, others⟩ := sizes_behind sizes
      rw [List.cons_append, cut, cut, List.take_append_of_le_length within,
        List.drop_append_of_le_length within, ih others, List.cons_append]

/-- The parcels of some sends are what these carried. -/
theorem flatMap_bytes_cut {entries : List Flush} {bytes : List UInt8}
    (sizes : Flush.total entries = bytes.length) :
    (cut entries bytes).flatMap Parcel.bytes = bytes := by
  induction entries generalizing bytes with
  | nil => exact (List.eq_nil_of_length_eq_zero sizes.symm).symm
  | cons entry rest ih =>
      rw [cut, List.flatMap_cons, ih (sizes_behind sizes).2, List.take_append_drop]

/-- The parcels of some sends have the entries of these. -/
theorem map_flush_cut {entries : List Flush} {bytes : List UInt8}
    (sizes : Flush.total entries = bytes.length) :
    (cut entries bytes).map flush = entries := by
  induction entries generalizing bytes with
  | nil => rfl
  | cons entry rest ih =>
      obtain ⟨within, others⟩ := sizes_behind sizes
      rw [cut, List.map_cons, ih others, flush, List.length_take_of_le within]

end Parcel

/-- A sink that keeps all it was sent: whether it is connected, the bytes that wait, those that were
sent, and the size and the delay of every send. -/
structure Recorder where
  connected : Bool
  waiting : Log UInt8
  carried : Log UInt8
  flushes : Log Flush
  sizes_sum : Flush.total flushes.toList = carried.toList.length
  deriving DecidableEq, Repr

namespace Recorder

/-- A recorder that nothing was written to. -/
def fresh : Recorder :=
  ⟨true, .empty, .empty, .empty, rfl⟩

/-- A recorder that never had a connection. -/
def disconnected : Recorder :=
  ⟨false, .empty, .empty, .empty, rfl⟩

/-- The bytes that wait, in order. -/
def pending (recorder : Recorder) : List UInt8 :=
  recorder.waiting.toList

/-- All bytes that were sent, in order. -/
def sent (recorder : Recorder) : List UInt8 :=
  recorder.carried.toList

/-- What each send carried. -/
def parcels (recorder : Recorder) : Log Parcel :=
  .ofList (Parcel.cut recorder.flushes.toList recorder.sent)

/-- Every send in order. -/
def sends (recorder : Recorder) : List Parcel :=
  recorder.parcels.toList

/-- Let bytes wait. -/
def append (recorder : Recorder) (bytes : List UInt8) : Recorder :=
  { recorder with waiting := recorder.waiting.append bytes }

/-- Send all that waits: the size of the send is that of the bytes that it adds. -/
def flush (recorder : Recorder) (extra : Nat) : Recorder where
  connected := recorder.connected
  waiting := .empty
  carried := recorder.carried.append recorder.pending
  flushes := recorder.flushes.push
    ⟨recorder.waiting.size, pacingDelay extra recorder.waiting.size⟩
  sizes_sum := by simp [pending, recorder.sizes_sum]

/-- All that was written, in order. -/
def stream (recorder : Recorder) : List UInt8 :=
  recorder.sent ++ recorder.pending

instance : Sink Recorder where
  write recorder command := recorder.append command.bytes
  send recorder extra :=
    if recorder.connected then (.ok (), recorder.flush extra) else (.error notConnected, recorder)
  isConnected recorder := recorder.connected
  disconnect recorder := { recorder with connected := false }

/-- Bytes that are written wait behind those that wait already. -/
@[simp] theorem pending_append (recorder : Recorder) (bytes : List UInt8) :
    (recorder.append bytes).pending = recorder.pending ++ bytes := by
  simp [pending, append]

/-- Nothing waits behind a send. -/
@[simp] theorem pending_flush (recorder : Recorder) (extra : Nat) :
    (recorder.flush extra).pending = [] := by
  simp [pending, flush]

/-- A write sends nothing. -/
@[simp] theorem sent_append (recorder : Recorder) (bytes : List UInt8) :
    (recorder.append bytes).sent = recorder.sent :=
  rfl

/-- A send carries all that waits. -/
@[simp] theorem sent_flush (recorder : Recorder) (extra : Nat) :
    (recorder.flush extra).sent = recorder.sent ++ recorder.pending := by
  simp [sent, flush]

/-- A write makes no parcel. -/
@[simp] theorem sends_append (recorder : Recorder) (bytes : List UInt8) :
    (recorder.append bytes).sends = recorder.sends :=
  rfl

/-- What was sent, cut at the sizes of the sends. -/
theorem sends_eq_cut (recorder : Recorder) :
    recorder.sends = Parcel.cut recorder.flushes.toList recorder.sent :=
  Log.toList_ofList _

/-- The parcels of a recorder are what it sent. -/
theorem flatMap_bytes_sends (recorder : Recorder) :
    recorder.sends.flatMap Parcel.bytes = recorder.sent := by
  rw [sends_eq_cut]
  exact Parcel.flatMap_bytes_cut recorder.sizes_sum

/-- The log of a recorder has the size and the delay of each of its parcels. -/
theorem map_flush_sends (recorder : Recorder) :
    recorder.sends.map Parcel.flush = recorder.flushes.toList := by
  rw [sends_eq_cut]
  exact Parcel.map_flush_cut recorder.sizes_sum

/-- A send makes a parcel of all that waits. -/
@[simp] theorem sends_flush (recorder : Recorder) (extra : Nat) :
    (recorder.flush extra).sends = recorder.sends ++
      [⟨recorder.pending, pacingDelay extra recorder.pending.length⟩] := by
  have entry : (recorder.flush extra).flushes.toList = recorder.flushes.toList ++
      [Parcel.flush ⟨recorder.pending, pacingDelay extra recorder.pending.length⟩] := by
    simp [flush, Parcel.flush, pending]
  rw [sends_eq_cut, sends_eq_cut, entry, sent_flush]
  exact Parcel.cut_concat recorder.sizes_sum _

/-- The stream grows by what is written. -/
@[simp] theorem stream_append (recorder : Recorder) (bytes : List UInt8) :
    (recorder.append bytes).stream = recorder.stream ++ bytes := by
  simp [stream]

/-- A send moves bytes within the stream, and adds none. -/
@[simp] theorem stream_flush (recorder : Recorder) (extra : Nat) :
    (recorder.flush extra).stream = recorder.stream := by
  simp [stream]

end Recorder

/-- A sink that refuses every send after the first `remaining` ones; `none` sets no limit. -/
structure Failing (σ : Type) where
  sink : σ
  remaining : Option Nat
  failure : Failure

namespace Failing

variable {σ : Type} [Sink σ]

/-- Send unless the limit is reached. -/
def send (failing : Failing σ) (extra : Nat) : Except Failure Unit × Failing σ :=
  match failing.remaining with
  | none =>
    let result := Sink.send failing.sink extra
    (result.1, { failing with sink := result.2 })
  | some 0 => (.error failing.failure, failing)
  | some (left + 1) =>
    let result := Sink.send failing.sink extra
    (result.1, { failing with sink := result.2, remaining := some left })

instance : Sink (Failing σ) where
  write failing command := { failing with sink := Sink.write failing.sink command }
  send := Failing.send
  isConnected failing := Sink.isConnected failing.sink
  disconnect failing := { failing with sink := Sink.disconnect failing.sink }

end Failing

end Receipt
