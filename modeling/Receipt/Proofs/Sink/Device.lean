import Receipt.Proofs.FileStore
import Receipt.Proofs.Session.Outputs
import Receipt.Sink.Device

/-!
# Device sinks

Chunks that are written one after the other are a single write, whatever their size.  So a device
sink that was opened on a file of a store has in it exactly what was sent, and nothing waits behind
a send.
-/

set_option autoImplicit false

namespace Receipt

/-- Behind a write of some bytes another one does not fail. -/
theorem FileStore.exists_writeAt_behind {store written : FileStore} {handle moved : FileHandle}
    {front : List UInt8} (some_bytes : front ≠ [])
    (wrote : store.writeAt handle front = .ok (written, moved)) (back : List UInt8) :
    ∃ result, written.writeAt moved back = .ok result := by
  have joined := store.writeAt_append handle front back
  rw [wrote] at joined
  have further : written.writeAt moved back = store.writeAt handle (front ++ back) := joined.symm
  rw [further]
  unfold writeAt at wrote ⊢
  split at wrote
  · exact ⟨_, rfl⟩
  · next hasRoom log found =>
      have nonempty : front.isEmpty = false := by simpa using some_bytes
      rw [nonempty, Bool.or_false] at wrote
      cases hasRoom with
      | true => exact ⟨_, rfl⟩
      | false => cases wrote
  · exact ⟨_, rfl⟩

namespace DeviceSink

/-- Chunks are written as their bytes would be at once, whatever their size, and fail as that
does. -/
theorem writeChunks_chunks (store : FileStore) (handle : FileHandle) (size : Nat) (pos : 0 < size)
    (bytes : List UInt8) :
    writeChunks store handle (chunks size pos bytes) =
      match store.writeAt handle bytes with
      | .ok (written, moved) => (.ok (), written, moved)
      | .error fault => (.error fault, store, handle) := by
  fun_induction chunks size pos bytes generalizing store handle with
  | case1 bytes behind =>
      rw [writeChunks]
      cases store.writeAt handle bytes <;> rfl
  | case2 bytes next rest behind ih =>
      -- The first chunk is a write by itself, and what follows it cannot fail if it did not.
      have split_up := store.writeAt_append handle (bytes.take size) (bytes.drop size)
      rw [List.take_append_drop, behind] at split_up
      have some_bytes : bytes.take size ≠ [] := by
        intro none
        have short := congrArg List.length none
        have long := congrArg List.length behind
        simp only [List.length_take, List.length_drop, List.length_nil, List.length_cons]
          at short long
        omega
      rw [writeChunks, split_up]
      cases wrote : store.writeAt handle (bytes.take size) with
      | error fault => rfl
      | ok result =>
          obtain ⟨written, moved⟩ := result
          obtain ⟨last, later⟩ := FileStore.exists_writeAt_behind some_bytes wrote (next :: rest)
          simp only [ih, later, bind, Except.bind]

/-- A send writes all that waits at once. -/
theorem flush_of_handle {sink : DeviceSink} {handle : FileHandle}
    (opened : sink.handle = some handle) :
    sink.flush =
      match sink.store.writeAt handle sink.pending with
      | .ok (written, moved) =>
        (.ok (), { sink with store := written, handle := some moved, waiting := .empty })
      | .error fault => (.error (.connection (.writeFailed fault)), sink) := by
  unfold flush
  rw [opened]
  simp only [writeChunks_chunks]
  cases sink.store.writeAt handle sink.pending with
  | ok result => rfl
  | error fault =>
      cases sink
      cases opened
      rfl

instance : Sink.Steady DeviceSink where
  isConnected_write _ _ := rfl
  isConnected_send sink extra := by
    change (sink.flush.2.handle.isSome) = sink.handle.isSome
    cases opened : sink.handle with
    | none =>
        rw [flush, opened]
        exact congrArg Option.isSome opened
    | some handle =>
        rw [flush_of_handle opened]
        cases sink.store.writeAt handle sink.pending with
        | ok result => rfl
        | error fault => exact congrArg Option.isSome opened

/-- Nothing waits behind a send. -/
theorem pending_of_send {sink next : DeviceSink} {extra : Nat}
    (sent : Sink.send sink extra = (.ok (), next)) : next.pending = [] := by
  change sink.flush = (.ok (), next) at sent
  cases opened : sink.handle with
  | none =>
      rw [flush, opened] at sent
      cases sent
  | some handle =>
      rw [flush_of_handle opened] at sent
      cases wrote : sink.store.writeAt handle sink.pending with
      | ok result =>
          rw [wrote] at sent
          cases sent
          rfl
      | error fault =>
          rw [wrote] at sent
          cases sent

end DeviceSink

end Receipt
