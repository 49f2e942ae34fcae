import Receipt.Command
import Receipt.Failure
import Receipt.Number.Word64

/-!
# Sinks

A sink takes commands and passes them on.  What is written waits until it is sent, and a send says
how long the printer needs beside the time for the bytes themselves.  A send that fails still leaves
a sink behind.
-/

set_option autoImplicit false

namespace Receipt

/-- What commands are written to. -/
class Sink (σ : Type) where
  /-- Write a command, which waits to be sent. -/
  write : σ → Command → σ
  /-- Send all that waits; the number is the extra delay in milliseconds. -/
  send : σ → Nat → Except Failure Unit × σ
  /-- Whether the printer can be reached. -/
  isConnected : σ → Bool
  /-- Give up the connection. -/
  disconnect : σ → σ

/-- The delay in milliseconds behind so many bytes, a printer taking sixteen in one of them, as a
word of 64 bits. -/
def pacingDelay (extra count : Nat) : Nat :=
  Number.unsigned64 (extra + count / 16)

/-- The failure of a send without a connection. -/
def notConnected : Failure :=
  .connection .notConnected

end Receipt
