import Receipt.CommandLine.Run

/-!
# The command

The outer layer of the command line.  It looks up what stands at the places that a request passes,
carries the request out over a store of them, and writes back what changed.
-/

set_option autoImplicit false

namespace Receipt.Main

open Receipt.CommandLine

/-- The places that a path passes, its end included. -/
def placesOf (current : Place) (path : Path) : List Place :=
  let start := if path.fromRoot then [] else current
  let move (places : List Place) (step : PathStep) : List Place :=
    let place := places.headD []
    match step with
    | .stay => places
    | .up => place.dropLast :: places
    | .down name => (place ++ [name]) :: places
  path.steps.foldl move (List.map (fun n => start.take n) (List.range (start.length + 1))).reverse

/-- The text of a place. -/
def placeText (place : Place) : String :=
  "/" ++ String.intercalate "/" place

/-- What stands at a place outside.  Devices are not read. -/
def inspect (place : Place) : IO (Option FileEntry) :=
  try
    let path ← IO.FS.realPath (placeText place)
    if ← path.isDir then pure (some .directory)
    else if !(← path.pathExists) then pure none
    else if place.head? == some "dev" then pure (some (.device true .empty))
    else pure (some (.file ⟨.empty, (← IO.FS.readBinFile path).toList⟩))
  catch _ =>
    pure none

/-- The standard streams and the directories they stand in. -/
def streamEntries : List (Place × FileEntry) :=
  Places.standardStreams.map (fun place => (place, .device true .empty)) ++
    Places.streamDirectories.map (fun place => (place, .directory))

/-- The store of all that stands where the paths of a request lead. -/
def load (current : Place) (paths : List String) : IO FileStore := do
  let ways := paths.filterMap (fun path => (Path.ofText path).toOption)
  let places := (ways.flatMap (placesOf current)).eraseDups
  let entries ← places.filterMapM (fun place => do
    return (← inspect place).map (fun entry => (place, entry)))
  pure ⟨streamEntries ++ entries, current⟩

/-- Write to the device at a place. -/
def writeDevice (place : Place) (bytes : ByteArray) : IO Unit := do
  if place = Places.standardOutput then (← IO.getStdout).write bytes
  else if place = Places.standardError then (← IO.getStderr).write bytes
  else
    let handle ← IO.FS.Handle.mk (placeText place) .readWrite
    handle.write bytes
    handle.flush

/-- Write back one entry if it changed. -/
def writeBack (before : FileStore) (change : Place × FileEntry) : IO Unit := do
  if before.entry? change.1 != some change.2 then
    match change.2 with
    | .file content => IO.FS.writeBinFile (placeText change.1) ⟨content.toList.toArray⟩
    | .device _ written => writeDevice change.1 ⟨written.toList.toArray⟩
    | _ => pure ()

/-- The place where relative paths begin. -/
def currentPlace : IO Place := do
  let text := (← IO.currentDir).toString
  pure (((text.toList.splitOn '/').filter (fun name => !name.isEmpty)).map String.ofList)

/-- Carry out a command line and answer its exit code. -/
def runCommand (arguments : List String) : IO UInt32 := do
  let current ← currentPlace
  let store ← load current (((Request.ofArguments? arguments).map Request.paths).getD [])
  let (ending, changed) := run arguments store
  (ending.report changed).entries.forM (writeBack store)
  pure ending.exitCode

end Receipt.Main

/-- Run the command with its arguments. -/
def main (arguments : List String) : IO UInt32 :=
  Receipt.Main.runCommand arguments
