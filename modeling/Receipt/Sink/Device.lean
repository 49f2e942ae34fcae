import Receipt.FileStore
import Receipt.Sink

/-!
# Sinks on devices

A device sink writes to a file or device of a store.  Devices are opened as they are and must be
there; other files are made anew.  A send writes what waits in chunks, and what could not be written
keeps waiting.  Giving up the connection drops what waits.
-/

set_option autoImplicit false

namespace Receipt

/-- A sink that writes to an open file in chunks of a given size. -/
structure DeviceSink where
  store : FileStore
  handle : Option FileHandle
  waiting : Log UInt8
  chunkSize : Nat
  chunkSize_pos : 0 < chunkSize

namespace DeviceSink

/-- The usual size of a chunk. -/
def usualChunkSize : Nat :=
  4096

/-- Open the file or device with a given path. -/
def openPath (store : FileStore) (path : String) : Except FileFault DeviceSink :=
  match Path.ofText path with
  | .error fault => .error fault
  | .ok way =>
    if way.isDevice then
      match store.openExisting way with
      | .error fault => .error fault
      | .ok handle => .ok ⟨store, some handle, .empty, usualChunkSize, by decide⟩
    else
      match store.create way with
      | .error fault => .error fault
      | .ok (opened, handle) => .ok ⟨opened, some handle, .empty, usualChunkSize, by decide⟩

/-- Open the printer with a given path. -/
def connect (store : FileStore) (path : String) : Except Failure DeviceSink :=
  match openPath store path with
  | .ok sink => .ok sink
  | .error fault => .error (.connection (.cannotOpen path fault))

/-- Choose the size of chunks, at least one byte. -/
def setChunkSize (sink : DeviceSink) (size : Nat) : DeviceSink :=
  { sink with chunkSize := max 1 size, chunkSize_pos := by omega }

/-- The bytes that wait, in order. -/
def pending (sink : DeviceSink) : List UInt8 :=
  sink.waiting.toList

/-- Let bytes wait. -/
def append (sink : DeviceSink) (bytes : List UInt8) : DeviceSink :=
  { sink with waiting := sink.waiting.append bytes }

/-- The chunks of a sequence of bytes; only the last one may be shorter than `size`. -/
def chunks (size : Nat) (h : 0 < size) (bytes : List UInt8) : List (List UInt8) :=
  match _behind : bytes.drop size with
  | [] => [bytes]
  | next :: rest => bytes.take size :: chunks size h (next :: rest)
  termination_by bytes.length
  decreasing_by
    have shorter := congrArg List.length _behind
    simp only [List.length_drop, List.length_cons] at shorter ⊢
    omega

/-- Write chunks one after the other, and say how far that got. -/
def writeChunks (store : FileStore) (handle : FileHandle) :
    List (List UInt8) → Except FileFault Unit × FileStore × FileHandle
  | [] => (.ok (), store, handle)
  | chunk :: rest =>
    match store.writeAt handle chunk with
    | .error fault => (.error fault, store, handle)
    | .ok (written, moved) => writeChunks written moved rest

/-- Write all that waits. -/
def flush (sink : DeviceSink) : Except Failure Unit × DeviceSink :=
  match sink.handle with
  | none => (.error notConnected, sink)
  | some handle =>
    match writeChunks sink.store handle (chunks sink.chunkSize sink.chunkSize_pos sink.pending) with
    | (.ok (), store, moved) =>
      (.ok (), { sink with store := store, handle := some moved, waiting := .empty })
    | (.error fault, store, moved) =>
      (.error (.connection (.writeFailed fault)), { sink with store := store, handle := some moved })

instance : Sink DeviceSink where
  write sink command := sink.append command.bytes
  send sink _ := sink.flush
  isConnected sink := sink.handle.isSome
  disconnect sink := { sink with handle := none, waiting := .empty }

end DeviceSink

end Receipt
