import Receipt.FileStore.Path

/-!
# Places of the system

The places that stand in every store: directories, devices that take everything, a device without
room, a terminal that nobody sits at, and the standard streams.  The streams are devices that are
known by several names, which are links to their places.
-/

set_option autoImplicit false

namespace Receipt.Places

/-- The place that lists the open streams. -/
def streams : Place :=
  ["proc", "self", "fd"]

/-- The place of the standard input. -/
def standardInput : Place :=
  streams ++ ["0"]

/-- The place of the standard output. -/
def standardOutput : Place :=
  streams ++ ["1"]

/-- The place of the standard error. -/
def standardError : Place :=
  streams ++ ["2"]

/-- The places that lead to other ones. -/
def links : List (Place × Place) :=
  [(["dev", "fd"], streams), (["dev", "stdin"], standardInput), (["dev", "stdout"], standardOutput),
    (["dev", "stderr"], standardError)]

/-- The place that a place leads to, itself unless it is a link. -/
def follow (place : Place) : Place :=
  (links.lookup place).getD place

/-- The directories that the streams stand in. -/
def streamDirectories : List Place :=
  [["proc"], ["proc", "self"], streams]

/-- Whether files can be made at a place: not among the processes. -/
def allowsFiles (place : Place) : Bool :=
  place.head? != some "proc"

/-- The directory to work in, which is empty. -/
def workplace : Place :=
  ["tmp", "work"]

/-- The directories below the root. -/
def directories : List Place :=
  streamDirectories ++
    [["bin"], ["boot"], ["dev"], ["dev", "pts"], ["dev", "shm"], ["etc"], ["home"], ["lib"],
      ["media"], ["mnt"], ["opt"], ["root"], ["run"], ["sbin"], ["srv"], ["sys"], ["tmp"],
      workplace, ["usr"], ["usr", "bin"], ["usr", "lib"], ["usr", "share"], ["var"],
      ["var", "lib"], ["var", "log"], ["var", "tmp"]]

/-- The streams, which are devices. -/
def standardStreams : List Place :=
  [standardInput, standardOutput, standardError]

/-- The devices that take everything. -/
def openDevices : List Place :=
  standardStreams ++ [["dev", "null"], ["dev", "zero"], ["dev", "random"], ["dev", "urandom"]]

/-- The device that has no room. -/
def fullDevice : Place :=
  ["dev", "full"]

/-- The terminal. -/
def terminal : Place :=
  ["dev", "tty"]

end Receipt.Places
