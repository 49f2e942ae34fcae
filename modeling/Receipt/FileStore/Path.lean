import Receipt.Failure

/-!
# Paths

A path is a text of steps between slashes.  Repeated slashes count as one, a slash in front starts
at the root, and a path that ends in a slash, in `.` or in `..` can only name a directory.  A path
has at most 4095 bytes and none of them is NUL; each of its names has at most 255 bytes.
-/

set_option autoImplicit false

namespace Receipt

/-- A place by the names on the way from the root. -/
abbrev Place :=
  List String

/-- One step of a path. -/
inductive PathStep where
  | stay
  | up
  | down (name : String)
  deriving DecidableEq, Repr

/-- A way to a place: where it starts, its steps, and whether it can only end at a directory. -/
structure Path where
  fromRoot : Bool
  steps : List PathStep
  toDirectory : Bool
  deriving DecidableEq, Repr

namespace PathStep

/-- The step that a name between slashes stands for. -/
def ofName (name : List Char) : PathStep :=
  if name = ['.'] then stay
  else if name = ['.', '.'] then up
  else down (String.ofList name)

/-- Whether a step names its goal. -/
def isDown : PathStep → Bool
  | down _ => true
  | _ => false

end PathStep

namespace Path

/-- The path that a text writes; the empty text names nothing. -/
def ofText (text : String) : Except FileFault Path :=
  let characters := text.toList
  let names := (characters.splitOn '/').filter (fun name => !name.isEmpty)
  let steps := names.map PathStep.ofName
  if characters.any (fun c => c.toNat == 0) then .error .nameHoldsNul
  else if 4095 < text.utf8ByteSize then .error .nameTooLong
  else if characters.isEmpty then .error .notFound
  else
    .ok
      { fromRoot := characters.head? == some '/'
        steps := steps
        toDirectory := characters.getLast? == some '/' || !(steps.getLast?.any PathStep.isDown) }

/-- The name that a path ends in, steps that stay where they are left aside. -/
def lastName? (path : Path) : Option String :=
  match (path.steps.filter (· != .stay)).getLast? with
  | some (.down name) => some name
  | _ => none

/-- Whether a path leads through the directory of devices. -/
def isDevice (path : Path) : Bool :=
  path.fromRoot && (path.steps.filter (· != .stay)).head? == some (.down "dev")

end Path

end Receipt
