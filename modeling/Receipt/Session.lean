import Receipt.Profile
import Receipt.Sink

/-!
# Sessions

A session writes to a sink for one profile.  It remembers the style it set last and sends only the
settings that differ, until a reset makes the printer forget them.  Every operation does nothing when
the sink has no connection.  Text is encoded, and an image is cut into strips, before anything is
written, so that an operation which fails for that reason leaves the session as it was.
-/

set_option autoImplicit false

namespace Receipt

/-- A profile, a sink, the style that was set last, and whether images are printed as strips. -/
structure Session (σ : Type) where
  profile : Profile
  sink : σ
  style : Option TextStyle
  strips : Bool

/-- What changes a session and may fail; a failure leaves the session as it is by then. -/
abbrev Action (σ : Type) :=
  EStateM Failure (Session σ)

namespace Session

variable {σ : Type} [Sink σ]

/-- A session on a sink. -/
def start (profile : Profile) (sink : σ) : Session σ :=
  ⟨profile, sink, none, false⟩

/-- Whether the printer can be reached. -/
def isConnected (session : Session σ) : Bool :=
  Sink.isConnected session.sink

/-- The session that prints images as strips, or not. -/
def useStrips (session : Session σ) (enable : Bool) : Session σ :=
  { session with strips := enable }

/-- The session without a connection. -/
def disconnect (session : Session σ) : Session σ :=
  { session with sink := Sink.disconnect session.sink, style := none }

end Session

namespace Action

variable {σ : Type} [Sink σ]

/-- An action that does nothing when there is no connection. -/
def whenConnected (action : Action σ Unit) : Action σ Unit := do
  if (← get).isConnected then action else pure ()

/-- Write a command. -/
def write (command : Command) : Action σ Unit :=
  modify (fun session => { session with sink := Sink.write session.sink command })

/-- Send what waits, with an extra delay in milliseconds. -/
def send (extra : Nat) : Action σ Unit := fun session =>
  match Sink.send session.sink extra with
  | (.ok (), sink) => .ok () { session with sink := sink }
  | (.error failure, sink) => .error failure { session with sink := sink }

/-- Remember the style that was set last. -/
def remember (style : Option TextStyle) : Action σ Unit :=
  modify (fun session => { session with style := style })

/-- Go on with a value that may have failed. -/
def continueWith {α : Type} (value : Except Failure α) (next : α → Action σ Unit) : Action σ Unit :=
  match value with
  | .ok result => next result
  | .error failure => throw failure

/-- Write commands one after the other. -/
def writeAll (commands : List Command) : Action σ Unit :=
  commands.forM write

/-- Write each command and send it at once. -/
def sendEach (commands : List Command) : Action σ Unit :=
  commands.forM (fun command => do
    write command
    send 0)

/-- Make the printer forget its settings. -/
def reset : Action σ Unit :=
  whenConnected do
    write .reset
    remember none

/-- Justify text and bar codes. -/
def justify (alignment : Alignment) : Action σ Unit :=
  whenConnected (write (.justify alignment))

/-- Print text: the table, the settings that change, and the bytes of the text. -/
def printText (text : List Char) (style : TextStyle) : Action σ Unit :=
  whenConnected do
    let session ← get
    let charset := session.profile.charset
    continueWith (charset.encode text) (fun bytes => do
      write (.selectTable charset.id)
      writeAll ((style.changes session.style).map Command.set)
      remember (some style)
      write (.text bytes))

/-- The commands that print an image, each to be sent at once: a single one, or its strips between
two line spacings. -/
def imageCommands (strips : Bool) (image : Raster) : Except Failure (List Command) :=
  if strips then
    match image.toStrips with
    | .ok parts => .ok (.stripSpacing :: (parts.map Command.strip ++ [.textSpacing]))
    | .error failure => .error failure
  else .ok [.raster image]

/-- Print an image. -/
def printImage (image : Raster) : Action σ Unit :=
  whenConnected do
    continueWith (imageCommands (← get).strips image) sendEach

/-- Print a bar code. -/
def printBarcode (barcode : Barcode) : Action σ Unit :=
  whenConnected (write (.barcode barcode))

/-- Print a QR symbol that the printer draws. -/
def printQr (model : Qr.Model) (text : List Char) (moduleSize : Int) : Action σ Unit :=
  whenConnected (write (.qr model text moduleSize))

/-- End the line and send it, and justify the next one if asked to. -/
def newLine (alignment : Option Alignment) : Action σ Unit :=
  whenConnected do
    write .lineFeed
    send 0
    match alignment with
    | some alignment => write (.justify alignment)
    | none => pure ()

/-- Feed so many dots of paper; no dots do nothing. -/
def feedPaper (dots : Nat) : Action σ Unit :=
  whenConnected do
    if dots = 0 then pure ()
    else
      write (.feed dots)
      send dots

/-- Send what waits. -/
def flush : Action σ Unit :=
  whenConnected (send 0)

/-- The milliseconds that a cut or the drawer takes. -/
def mechanicalDelay : Nat :=
  100

/-- Cut the paper. -/
def cut : Action σ Unit :=
  whenConnected do
    write .cut
    send mechanicalDelay

/-- Open the cash drawer. -/
def openDrawer : Action σ Unit :=
  whenConnected do
    write .openDrawer
    send mechanicalDelay

/-- The label of the page that shows a table. -/
def tableLabel (id : UInt8) : List Char :=
  (":::: Charset n" ++ String.singleton (Char.ofNat 0xb0) ++ toString id.toNat ++ " : ").toList

/-- All bytes from the least to the greatest. -/
def allBytes : List UInt8 :=
  (List.range 256).map UInt8.ofNat

/-- The commands that show a table: its selection, plain settings, a label, all bytes and four
empty lines. -/
def tableCommands (id : UInt8) : List Command :=
  [.selectTable id, .set (.size .normal), .set (.color .black), .set (.reverse .off),
    .set (.weight .normal), .set (.underline .off), .set (.doubleStrike .off),
    .text (Bytes.ofText (tableLabel id)), .text allBytes,
    .lineFeed, .lineFeed, .lineFeed, .lineFeed]

/-- Print a page that shows a table. -/
def printTable (id : UInt8) : Action σ Unit :=
  whenConnected do
    writeAll (tableCommands id)
    remember (some .plain)
    send 0

end Action

end Receipt
