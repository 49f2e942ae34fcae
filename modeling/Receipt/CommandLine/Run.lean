import Receipt.CommandLine.Request
import Receipt.Picture.Fit
import Receipt.Picture.Format
import Receipt.Picture.Ppm
import Receipt.Profile.Json
import Receipt.Profile.Name
import Receipt.Sink.Device
import Receipt.Sink.Memory

/-!
# Running requests

A request is carried out over a store of files, in which the standard streams are devices.  For a
printer, the printer is opened before the profile is read; for a file, the whole job is recorded and
written only if it succeeds.  A request ends with output, with a failure, or, when it cannot be
understood, with nothing done.
-/

set_option autoImplicit false

namespace Receipt.CommandLine

/-- How a command line ends. -/
inductive Ending where
  | done (output : List Char)
  | failed (failure : Failure)
  | misused
  deriving DecidableEq

namespace Ending

/-- The number that a command line ends with. -/
def exitCode : Ending → UInt32
  | done _ => 0
  | failed _ => 1
  | misused => 2

/-- The text of its standard output. -/
def output : Ending → String
  | done text => String.ofList text
  | _ => ""

/-- The text of its standard error. -/
def errorText : Ending → String
  | failed failure => "Error: " ++ failure.message ++ "\n"
  | misused => "Usage: print FILE | image FILE | charsets [ID...]\n"
  | _ => ""

/-- The store behind an ending, whose words are written to the standard streams. -/
def report (ending : Ending) (store : FileStore) : FileStore :=
  (store.emit Places.standardOutput (Bytes.ofText ending.output.toList)).emit Places.standardError
    (Bytes.ofText ending.errorText.toList)

/-- The end of a request that may have failed. -/
def ofResult : Except Failure (List Char) → Ending
  | .ok output => done output
  | .error failure => failed failure

end Ending

namespace Target

/-- The profile of a target.  A profile in a file overrides a named one. -/
def profile (target : Target) (store : FileStore) : Except Failure Profile :=
  match target.profileFile with
  | none => Profile.ofName target.profileName
  | some path =>
    match store.readText path with
    | .error fault => .error (.file fault)
    | .ok text => Profile.ofJsonText text

/-- Record a job and write all of it to a file. -/
def writeFile (target : Target) (path : String) (job : Action Recorder Unit) (store : FileStore) :
    Ending × FileStore :=
  match target.profile store with
  | .error failure => (.failed failure, store)
  | .ok profile =>
    match job.run (Session.start profile .fresh) with
    | .error failure _ => (.failed failure, store)
    | .ok _ session =>
      match store.write path session.sink.stream with
      | .error fault => (.failed (.file fault), store)
      | .ok written => (.done [], written)

/-- Run a job on a printer. -/
def usePrinter (target : Target) (path : String) (job : Action DeviceSink Unit)
    (store : FileStore) : Ending × FileStore :=
  match DeviceSink.connect store path with
  | .error failure => (.failed failure, store)
  | .ok sink =>
    match target.profile sink.store with
    | .error failure => (.failed failure, sink.store)
    | .ok profile =>
      match job.run (Session.start profile sink) with
      | .error failure session => (.failed failure, session.sink.store)
      | .ok _ session => (.done [], session.disconnect.sink.store)

/-- Run a job for a target. -/
def run (target : Target) (job : {σ : Type} → [Sink σ] → Action σ Unit) (store : FileStore) :
    Ending × FileStore :=
  match target.destination with
  | .file path => target.writeFile path job store
  | .printer path => target.usePrinter path job store

end Target

/-- The job that prints a document. -/
def printJob (text : List Char) (finish : Finish) (strips : Bool) (feed : Number.Single)
    {σ : Type} [Sink σ] : Action σ Unit := do
  modify (fun session => session.useStrips strips)
  match finish with
  | .nothing => Action.printMm text feed
  | .cut => Action.printAndCut text feed
  | .openDrawer => Action.printAndOpenDrawer text feed

/-- The job that prints the given tables, or all of them. -/
def charsetsJob (ids : List UInt8) {σ : Type} [Sink σ] : Action σ Unit :=
  if ids.isEmpty then Action.printAllTables else Action.printTables ids

/-- The picture in a file.  The file is opened first; its name then tells the format, before
anything is read from it. -/
def readPicture (file : String) (store : FileStore) : Except Failure Picture :=
  let outcome := match store.read file, Picture.formatFault? file with
    | .ok bytes, none => Picture.Ppm.decode bytes
    | .ok _, some fault => .error fault
    | .error .isDirectory, some fault => .error fault
    | .error fault, _ => .error (.file fault)
  outcome.mapError (fun cause => .image (.cannotOpen file cause))

/-- The markup that prints a raster. -/
def imageMarkup (raster : Raster) : List Char :=
  "<img>".toList ++ raster.toHex ++ "</img>".toList

/-- The line of markup for the picture in a file. -/
def imageLine (file profileName : String) (gradient : Bool) (store : FileStore) :
    Except Failure (List Char) := do
  let profile ← Profile.ofName profileName
  let picture ← readPicture file store
  let raster ← profile.fitPicture picture (if gradient then .gradient else .threshold)
  pure (imageMarkup raster ++ ['\n'])

/-- Carry out a request. -/
def Request.run (request : Request) (store : FileStore) : Ending × FileStore :=
  match request with
  | .print file target finish strips feed =>
    match store.readText file with
    | .error fault => (.failed (.file fault), store)
    | .ok text => target.run (printJob text finish strips feed) store
  | .image file profileName gradient => (.ofResult (imageLine file profileName gradient store), store)
  | .charsets ids target => target.run (charsetsJob ids) store
  | .version => (.done versionLine.toList, store)
  | .help topic => (.done topic.page.text.toList, store)

/-- Carry out a command line. -/
def run (arguments : List String) (store : FileStore) : Ending × FileStore :=
  match Request.ofArguments? arguments with
  | none => (.misused, store)
  | some request => request.run store

end Receipt.CommandLine
