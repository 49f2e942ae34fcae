import Receipt.Markup.Document
import Receipt.Qr.Symbol
import Receipt.Session

/-!
# Print jobs

A job reads a document and prints it: a reset, the elements line by line, and a feed.  A document
that cannot be read fails before anything is written, with or without a connection.  A line that ends
with text is ended; other lines move the paper by themselves.  Without a feed what waits is sent.
-/

set_option autoImplicit false

namespace Receipt

namespace Action

variable {σ : Type} [Sink σ]

/-- Print an element. -/
def emit (element : Markup.Element) : Action σ Unit :=
  match element with
  | .text run => printText run.text run.style
  | .image placed => printImage placed.image
  | .qr _ placed => printImage placed.image
  | .barcode placed => do
    justify placed.alignment
    printBarcode placed.barcode

/-- Print a line. -/
def printLine (line : Markup.Line) : Action σ Unit := do
  line.elements.forM emit
  if line.endsWithText then newLine none else pure ()

/-- Feed so many dots, or send what waits when there are none. -/
def finish (dots : Nat) : Action σ Unit :=
  if 0 < dots then feedPaper dots else flush

/-- Print the lines of a document and feed so many dots. -/
def printLines (lines : List Markup.Line) (dots : Nat) : Action σ Unit := do
  reset
  lines.forM printLine
  finish dots

/-- Print a document and feed so many dots. -/
def printDots (text : List Char) (dots : Nat) : Action σ Unit := do
  let session ← get
  continueWith (Markup.Document.parse session.profile Qr.encode text)
    (fun lines => printLines lines dots)

/-- Print a document and feed so many millimetres. -/
def printMm (text : List Char) (feed : Number.Single) : Action σ Unit := do
  let session ← get
  printDots text (session.profile.mmToPx feed).toNat

/-- The feed of a job without one, in millimetres. -/
def standardFeed : Number.Single :=
  Number.Single.ofNat 20

/-- Print a document and feed the usual length. -/
def print (text : List Char) : Action σ Unit :=
  printMm text standardFeed

/-- Print a document, feed and cut the paper. -/
def printAndCut (text : List Char) (feed : Number.Single) : Action σ Unit := do
  printMm text feed
  cut

/-- Print a document, feed, cut the paper and open the cash drawer. -/
def printAndOpenDrawer (text : List Char) (feed : Number.Single) : Action σ Unit := do
  printAndCut text feed
  openDrawer

/-- Print the pages that show the given tables. -/
def printTables (ids : List UInt8) : Action σ Unit :=
  ids.forM printTable

/-- Print the pages that show all tables. -/
def printAllTables : Action σ Unit :=
  printTables allBytes

end Action

end Receipt
