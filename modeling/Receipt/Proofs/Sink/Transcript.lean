import Receipt.Sink.Device
import Receipt.Sink.Memory

/-!
# Sinks that keep a transcript

What a session says to its printer is the list of commands it writes, whatever its sink makes of
them.  A transcript is a sink together with that list.  Giving up the connection of a sink leaves it
without one; all sinks of the library are made so.
-/

set_option autoImplicit false

namespace Receipt

/-- A sink that has no connection once it is given up. -/
class Sink.Releasing (σ : Type) [Sink σ] : Prop where
  isConnected_disconnect (sink : σ) : Sink.isConnected (Sink.disconnect sink) = false

instance : Sink.Releasing Recorder where
  isConnected_disconnect _ := rfl

instance {σ : Type} [Sink σ] [Sink.Releasing σ] : Sink.Releasing (Failing σ) where
  isConnected_disconnect failing := Sink.Releasing.isConnected_disconnect failing.sink

instance : Sink.Releasing DeviceSink where
  isConnected_disconnect _ := rfl

/-- A sink and all commands written to it, in order. -/
structure Transcript (σ : Type) where
  sink : σ
  commands : List Command

namespace Transcript

variable {σ : Type} [Sink σ]

/-- The transcript of a sink that nothing was written to yet. -/
def ofSink (sink : σ) : Transcript σ :=
  ⟨sink, []⟩

instance : Sink (Transcript σ) where
  write transcript command :=
    ⟨Sink.write transcript.sink command, transcript.commands ++ [command]⟩
  send transcript extra :=
    let result := Sink.send transcript.sink extra
    (result.1, { transcript with sink := result.2 })
  isConnected transcript := Sink.isConnected transcript.sink
  disconnect transcript := { transcript with sink := Sink.disconnect transcript.sink }

instance [Sink.Releasing σ] : Sink.Releasing (Transcript σ) where
  isConnected_disconnect transcript := Sink.Releasing.isConnected_disconnect transcript.sink

/-- Written commands stand in the transcript in their order. -/
theorem commands_foldl_write (commands : List Command) (transcript : Transcript σ) :
    (commands.foldl Sink.write transcript).commands = transcript.commands ++ commands := by
  induction commands generalizing transcript with
  | nil => simp
  | cons command rest ih =>
      rw [List.foldl_cons, ih]
      simp [Sink.write]

end Transcript

end Receipt
