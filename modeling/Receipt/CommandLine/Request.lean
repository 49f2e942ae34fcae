import Receipt.CommandLine.Help
import Receipt.CommandLine.Words
import Receipt.Job

/-!
# Requests

A command line asks to print a document, to turn a picture into markup, to print the pages that show
tables, or to be told the version or help.  Help is told as soon as a word asks for it, if the words
in front of it can be read; what is missing or contradicts does not matter then.  A command line that
asks for nothing, or asks in a way that cannot be understood, is no request.
-/

set_option autoImplicit false

namespace Receipt.CommandLine

/-- Where commands go. -/
inductive Destination where
  | printer (path : String)
  | file (path : String)
  deriving DecidableEq, Repr

/-- The printer a job is for: a profile by name or in a file, and where commands go. -/
structure Target where
  profileName : String
  profileFile : Option String
  destination : Destination
  deriving DecidableEq, Repr

/-- What happens after a document was printed and fed. -/
inductive Finish where
  | nothing
  | cut
  | openDrawer
  deriving DecidableEq, Repr

/-- What a command line asks for. -/
inductive Request where
  | print (file : String) (target : Target) (finish : Finish) (strips : Bool)
      (feed : Number.Single)
  | image (file : String) (profileName : String) (gradient : Bool)
  | charsets (ids : List UInt8) (target : Target)
  | version
  | help (topic : Topic)

/-- The profile that is used unless another one is named. -/
def standardProfile : String :=
  "58mm"

/-- The printer that is used unless another one is named. -/
def standardPrinter : String :=
  "/dev/usb/lp0"

/-- A path must not be empty. -/
def path? (text : String) : Option String :=
  if text.isEmpty then none else some text

/-- A path that may be missing. -/
def optionalPath? : Option String → Option (Option String)
  | none => some none
  | some text => (path? text).map some

/-- The kinds of the options that choose a target. -/
def targetKind? (name : String) : Option OptionKind :=
  if ["profile", "profile-file", "device", "output"].contains name then some .valued else none

/-- The kinds of the options for printing a document. -/
def printKind? (name : String) : Option OptionKind :=
  if ["cut", "cash-drawer", "strip-raster"].contains name then some .flag
  else if name = "feed-mm" then some .valued
  else targetKind? name

/-- The kinds of the options for pictures. -/
def imageKind? (name : String) : Option OptionKind :=
  if ["gradient", "no-gradient"].contains name then some .flag
  else if name = "profile" then some .valued
  else none

namespace Target

/-- The destination for a printer and a file that may both be named, but not together. -/
def destination? (device output : Option String) : Option Destination :=
  match device, output with
  | none, none => some (.printer standardPrinter)
  | some path, none => some (.printer path)
  | none, some path => some (.file path)
  | some _, some _ => none

/-- Read the options that choose a target; the result is empty when an option cannot be read, and
holds no target when options contradict. -/
def ofWords? (words : Words) : Option (Option Target) := do
  let profileName ← words.value? "profile"
  let profileFile ← optionalPath? (← words.value? "profile-file")
  let device ← optionalPath? (← words.value? "device")
  let output ← optionalPath? (← words.value? "output")
  pure ((destination? device output).map
    (fun destination => ⟨profileName.getD standardProfile, profileFile, destination⟩))

end Target

namespace Request

/-- Read the only operand; the result is empty when it cannot be read or is not the only one, and
holds nothing when it is missing. -/
def file? (words : Words) : Option (Option String) :=
  match words.operands with
  | [] => some none
  | [file] => (path? file).map some
  | _ => none

/-- A feed in millimetres, or the usual one. -/
def feed? : Option String → Option Number.Single
  | none => some Action.standardFeed
  | some text => Number.Single.read? text.toList

/-- The number of a table. -/
def table? (text : String) : Option UInt8 :=
  (Number.readInt? 0 255 text.toList).map (fun id => UInt8.ofNat id.toNat)

/-- What happens after printing; opening the drawer includes the cut. -/
def finishOf (cut drawer : Bool) : Finish :=
  if drawer then .openDrawer else if cut then .cut else .nothing

/-- Read the words of a request to print a document; the result is empty when a word cannot be read,
and holds no request when words are missing or contradict. -/
def print? (words : Words) : Option (Option Request) := do
  let file ← file? words
  let target ← Target.ofWords? words
  let cut ← words.flag? "cut"
  let drawer ← words.flag? "cash-drawer"
  let strips ← words.flag? "strip-raster"
  let feed ← feed? (← words.value? "feed-mm")
  pure (do pure (.print (← file) (← target) (finishOf cut drawer) strips feed))

/-- Read the words of a request to turn a picture into markup. -/
def image? (words : Words) : Option (Option Request) := do
  let file ← file? words
  let profileName ← words.value? "profile"
  let last ← words.lastOf? "gradient" "no-gradient"
  pure (do pure (.image (← file) (profileName.getD standardProfile) (last != some "no-gradient")))

/-- Read the words of a request to print tables. -/
def charsets? (words : Words) : Option (Option Request) := do
  let ids ← words.operands.mapM table?
  let target ← Target.ofWords? words
  pure (do pure (.charsets ids (← target)))

/-- The request of the words behind a subcommand, which has options of the given kinds. -/
def ofSubcommand? (topic : Topic) (kind? : String → Option OptionKind)
    (read? : Words → Option (Option Request)) (words : List String) : Option Request :=
  match Words.beforeHelp? words with
  | some before => ((Words.sort? kind? before).bind read?).map (fun _ => .help topic)
  | none => ((Words.sort? kind? words).bind read?).join

/-- The request that a command line makes. -/
def ofArguments? : List String → Option Request
  | [] => none
  | first :: rest =>
    if Words.asksFor 'h' "help" first then some (.help .program)
    else if Words.asksFor 'V' "version" first then some .version
    else if first = "help" then (Topic.ofWords? rest).map .help
    else if first = "print" then ofSubcommand? .print printKind? print? rest
    else if first = "image" then ofSubcommand? .image imageKind? image? rest
    else if first = "charsets" then ofSubcommand? .charsets targetKind? charsets? rest
    else none

/-- The paths that a request names. -/
def paths : Request → List String
  | print file target _ _ _ => file :: target.profileFile.toList ++ [destinationPath target]
  | image file _ _ => [file]
  | charsets _ target => target.profileFile.toList ++ [destinationPath target]
  | version => []
  | help _ => []
where
  /-- The path that commands go to. -/
  destinationPath (target : Target) : String :=
    match target.destination with
    | .printer path => path
    | .file path => path

end Request

end Receipt.CommandLine
