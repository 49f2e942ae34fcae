import Receipt.FileStore.Content
import Receipt.FileStore.Places

/-!
# Files

A store of files, directories and devices, each at a place below the root.  Every step of a path
must leave a directory that is there, and follows the links of the system.  A file can be opened with
or without being made anew, written through a handle that remembers how far it got, replaced as a
whole and read.
-/

set_option autoImplicit false

namespace Receipt

/-- What can stand at a place.  A device keeps what was written to it, unless it has no room; a
terminal that nobody sits at cannot be opened. -/
inductive FileEntry where
  | file (content : Content)
  | directory
  | device (hasRoom : Bool) (written : Log UInt8)
  | detached
  deriving DecidableEq, Repr

/-- The bytes that can be read from what stands at a place; a device has none to give. -/
def FileEntry.read : FileEntry → Except FileFault (List UInt8)
  | file content => .ok content.toList
  | device _ _ => .ok []
  | directory => .error .isDirectory
  | detached => .error .noDevice

/-- What stands at each place, and where paths that do not start at the root begin. -/
structure FileStore where
  entries : List (Place × FileEntry)
  current : Place
  deriving DecidableEq, Repr

/-- A file that is open for writing: its place and the offset of the next byte. -/
structure FileHandle where
  place : Place
  offset : Nat
  deriving DecidableEq, Repr

namespace FileStore

/-- The store of the places of the system. -/
def initial : FileStore :=
  { entries :=
      (Places.fullDevice, .device false .empty) :: (Places.terminal, .detached) ::
        (Places.openDevices.map (fun place => (place, .device true .empty)) ++
          Places.directories.map (fun place => (place, .directory)))
    current := Places.workplace }

/-- What stands at a place.  The root is a directory. -/
def entry? (store : FileStore) (place : Place) : Option FileEntry :=
  if place = [] then some .directory
  else store.entries.lookup place

/-- Look for what stands at a place whose directory is there; a name can be too long to be looked
for. -/
def lookUp (store : FileStore) (place : Place) : Except FileFault (Option FileEntry) :=
  if place.getLast?.any (fun name => 255 < name.utf8ByteSize) then .error .nameTooLong
  else .ok (store.entry? place)

/-- Replace what stands at a place. -/
def set (store : FileStore) (place : Place) (entry : FileEntry) : FileStore :=
  { store with entries := (place, entry) :: store.entries.filter (fun other => other.1 != place) }

/-- The place behind one step. -/
def step (store : FileStore) (place : Place) (step : PathStep) : Except FileFault Place :=
  match store.lookUp place with
  | .error fault => .error fault
  | .ok (some .directory) =>
    match step with
    | .stay => .ok place
    | .up => .ok place.dropLast
    | .down name => .ok (Places.follow (place ++ [name]))
  | .ok (some _) => .error .notDirectory
  | .ok none => .error .notFound

/-- The place at the end of a path, where nothing need stand. -/
def locate (store : FileStore) (path : Path) : Except FileFault Place :=
  path.steps.foldlM store.step (if path.fromRoot then [] else store.current)

/-- Open a file for writing, which is made anew or emptied. -/
def create (store : FileStore) (path : Path) : Except FileFault (FileStore × FileHandle) :=
  match store.locate path with
  | .error fault => .error fault
  | .ok place =>
    if path.toDirectory then .error .isDirectory
    else
      match store.lookUp place with
      | .error fault => .error fault
      | .ok (some .directory) => .error .isDirectory
      | .ok (some .detached) => .error .noDevice
      | .ok (some (.device _ _)) => .ok (store, ⟨place, 0⟩)
      | .ok _ =>
        if Places.allowsFiles place then .ok (store.set place (.file .empty), ⟨place, 0⟩)
        else .error .notFound

/-- Open a file for writing as it is. -/
def openExisting (store : FileStore) (path : Path) : Except FileFault FileHandle :=
  match store.locate path with
  | .error fault => .error fault
  | .ok place =>
    match store.lookUp place with
    | .error fault => .error fault
    | .ok none => .error .notFound
    | .ok (some .directory) => .error .isDirectory
    | .ok (some .detached) =>
      if path.toDirectory then .error .notDirectory else .error .noDevice
    | .ok (some _) => if path.toDirectory then .error .notDirectory else .ok ⟨place, 0⟩

/-- Write through a handle. -/
def writeAt (store : FileStore) (handle : FileHandle) (data : List UInt8) :
    Except FileFault (FileStore × FileHandle) :=
  let moved : FileHandle := ⟨handle.place, handle.offset + data.length⟩
  match store.entry? handle.place with
  | some (.file content) =>
    .ok (store.set handle.place (.file (content.overwrite handle.offset data)), moved)
  | some (.device hasRoom written) =>
    if hasRoom || data.isEmpty then
      .ok (store.set handle.place (.device hasRoom (written.append data)), moved)
    else .error .deviceFull
  | _ => .ok (store, moved)

/-- Make a file hold the given bytes. -/
def write (store : FileStore) (path : String) (data : List UInt8) : Except FileFault FileStore :=
  match Path.ofText path with
  | .error fault => .error fault
  | .ok way =>
    match store.create way with
    | .error fault => .error fault
    | .ok (opened, handle) => (opened.writeAt handle data).map Prod.fst

/-- The bytes of a file; a device has none to give. -/
def read (store : FileStore) (path : String) : Except FileFault (List UInt8) :=
  match Path.ofText path with
  | .error fault => .error fault
  | .ok way =>
    match store.locate way with
    | .error fault => .error fault
    | .ok place =>
      match store.lookUp place with
      | .error fault => .error fault
      | .ok none => .error .notFound
      | .ok (some .directory) => .error .isDirectory
      | .ok (some entry) => if way.toDirectory then .error .notDirectory else entry.read

/-- The text of a file. -/
def readText (store : FileStore) (path : String) : Except FileFault (List Char) :=
  match store.read path with
  | .error fault => .error fault
  | .ok bytes =>
    match String.fromUTF8? ⟨bytes.toArray⟩ with
    | some text => .ok text.toList
    | none => .error .notUtf8

/-- What was written to the device at a place. -/
def written (store : FileStore) (place : Place) : List UInt8 :=
  match store.entry? place with
  | some (.device _ log) => log.toList
  | _ => []

/-- Write to the device at a place, if it has room. -/
def emit (store : FileStore) (place : Place) (data : List UInt8) : FileStore :=
  match store.writeAt ⟨place, 0⟩ data with
  | .ok (changed, _) => changed
  | .error _ => store

end FileStore

end Receipt
