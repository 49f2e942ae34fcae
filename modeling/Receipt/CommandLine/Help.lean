/-!
# Help

What the command says about itself: its version, and a page of help for the whole command and for
each of its subcommands.  A page has a sentence, the usage, and tables of what can be written with
what it means, the meanings standing below each other.
-/

set_option autoImplicit false

namespace Receipt.CommandLine

/-- What help can be asked about. -/
inductive Topic where
  | program
  | print
  | image
  | charsets
  | help
  deriving DecidableEq, Repr

/-- A page of help: a sentence, what can be written behind the name of the command, and tables with
their titles. -/
structure HelpPage where
  about : String
  usage : String
  tables : List (String × List (String × String))
  deriving DecidableEq, Repr

/-- The name of the command. -/
def programName : String :=
  "boleta"

/-- The line that tells the version. -/
def versionLine : String :=
  programName ++ " 0.1.0\n"

namespace HelpPage

/-- The lines of a table.  What can be written is filled up with spaces to the same length. -/
def tableLines (rows : List (String × String)) : List String :=
  let width := rows.foldl (fun widest row => max widest row.1.length) 0
  rows.map (fun row =>
    "  " ++ row.1 ++ String.ofList (List.replicate (width - row.1.length) ' ') ++ "  " ++ row.2)

/-- All lines of a page. -/
def lines (page : HelpPage) : List String :=
  [page.about, "", "Usage: " ++ programName ++ " " ++ page.usage] ++
    page.tables.flatMap (fun entry => ["", entry.1 ++ ":"] ++ tableLines entry.2)

/-- The text of a page. -/
def text (page : HelpPage) : String :=
  String.join (page.lines.map (fun line => line ++ "\n"))

end HelpPage

namespace Topic

/-- The option that names a profile. -/
def profileRow : String × String :=
  ("    --profile <PROFILE>", "Printer profile: 58mm, 80mm or DPI:WIDTH_MM:CHARS [default: 58mm]")

/-- The options that choose a target. -/
def targetRows : List (String × String) :=
  [profileRow,
    ("    --profile-file <FILE>", "JSON profile file, overrides --profile"),
    ("    --device <DEVICE>", "Printer device path [default: /dev/usb/lp0]"),
    ("    --output <FILE>", "Write the command bytes to a file instead of a printer")]

/-- The option that asks for help. -/
def helpRow : String × String :=
  ("-h, --help", "Print help")

/-- The page of the whole command. -/
def programPage : HelpPage :=
  { about := "ESC/POS receipt printing: markup parser, column layout and protocol encoder"
    usage := "<COMMAND>"
    tables :=
      [("Commands",
          [("print", "Print a receipt markup file"),
            ("image", "Convert an image to an <img> markup tag"),
            ("charsets", "Print code page test pages"),
            ("help", "Print this message or the help of the given subcommand(s)")]),
        ("Options", [helpRow, ("-V, --version", "Print version")])] }

/-- The page about printing a document. -/
def printPage : HelpPage :=
  { about := "Print a receipt markup file"
    usage := "print [OPTIONS] <FILE>"
    tables :=
      [("Arguments", [("<FILE>", "Markup file")]),
        ("Options", targetRows ++
          [("    --cut", "Cut the paper after printing"),
            ("    --cash-drawer", "Cut and open the cash drawer after printing"),
            ("    --strip-raster",
              "Send images as 24-dot strips (ESC *) for printers without GS v 0"),
            ("    --feed-mm <FEED_MM>",
              "Paper feed after the receipt, in millimeters [default: 20]"),
            helpRow])] }

/-- The page about pictures. -/
def imagePage : HelpPage :=
  { about := "Convert an image to an <img> markup tag"
    usage := "image [OPTIONS] <FILE>"
    tables :=
      [("Arguments", [("<FILE>", "Image file (PNG, JPEG, ...)")]),
        ("Options",
          [profileRow,
            ("    --gradient", "Approximate grays with an ordered pattern (default)"),
            ("    --no-gradient", "Plain black/white threshold"),
            helpRow])] }

/-- The page about the pages that show tables. -/
def charsetsPage : HelpPage :=
  { about := "Print code page test pages"
    usage := "charsets [OPTIONS] [IDS]..."
    tables :=
      [("Arguments", [("[IDS]...", "Table ids (omit for all 256)")]),
        ("Options", targetRows ++ [helpRow])] }

/-- The page about help. -/
def helpPage : HelpPage :=
  { about := "Print this message or the help of the given subcommand(s)"
    usage := "help [COMMAND]..."
    tables := [("Arguments", [("[COMMAND]...", "Print help for the subcommand(s)")])] }

/-- The page about a topic. -/
def page : Topic → HelpPage
  | program => programPage
  | print => printPage
  | image => imagePage
  | charsets => charsetsPage
  | help => helpPage

/-- The topic that the words behind `help` name. -/
def ofWords? : List String → Option Topic
  | [] => some program
  | ["print"] => some print
  | ["image"] => some image
  | ["charsets"] => some charsets
  | ["help"] => some help
  | _ => none

end Topic

end Receipt.CommandLine
