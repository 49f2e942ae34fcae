/-!
# Words of a command line

The words behind the name of a command are options and operands.  An option starts with two hyphens;
it either stands alone or takes a value, which follows an equals sign or is the next word.  The word
of two hyphens ends the options.  A word that starts with a single hyphen is refused, except for the
hyphen alone.
-/

set_option autoImplicit false

namespace Receipt.CommandLine

/-- Whether an option takes a value. -/
inductive OptionKind where
  | flag
  | valued
  deriving DecidableEq, Repr

/-- The options of a command line with their values, and its operands, in the order given. -/
structure Words where
  options : List (String × String)
  operands : List String
  deriving DecidableEq, Repr

namespace Words

/-- Whether a word can be a value or an operand. -/
def isPlain (word : String) : Bool :=
  match word.toList with
  | '-' :: _ :: _ => false
  | _ => true

/-- Whether a word asks for help or, as `letter` and `name` say, for something else that is told at
once; what is joined to the letter does not matter. -/
def asksFor (letter : Char) (name word : String) : Bool :=
  match word.toList with
  | '-' :: first :: _ => first == letter || word == "--" ++ name
  | _ => false

/-- The words in front of the first one that asks for help, if one does; the word of two hyphens ends
the search. -/
def beforeHelp? : List String → Option (List String)
  | [] => none
  | word :: rest =>
    if word = "--" then none
    else if asksFor 'h' "help" word then some []
    else (beforeHelp? rest).map (word :: ·)

/-- The name of an option with the value behind its equals sign, if a word is an option. -/
def splitOption? (word : String) : Option (String × Option String) :=
  match word.toList with
  | '-' :: '-' :: body =>
    let name := String.ofList (body.takeWhile (· != '='))
    match body.dropWhile (· != '=') with
    | _ :: value => some (name, some (String.ofList value))
    | [] => some (name, none)
  | _ => none

/-- The words with one more option in front. -/
def addOption (name value : String) (words : Words) : Words :=
  { words with options := (name, value) :: words.options }

/-- The words with one more operand in front. -/
def addOperand (operand : String) (words : Words) : Words :=
  { words with operands := operand :: words.operands }

/-- Sort words into options of the given kinds and operands. -/
def sort? (kind? : String → Option OptionKind) : List String → Option Words
  | [] => some ⟨[], []⟩
  | word :: rest =>
    if word = "--" then some ⟨[], rest⟩
    else
      match splitOption? word with
      | none => if isPlain word then (sort? kind? rest).map (addOperand word) else none
      | some (name, attached) =>
        match kind? name, attached with
        | some .flag, none => (sort? kind? rest).map (addOption name "")
        | some .valued, some value => (sort? kind? rest).map (addOption name value)
        | some .valued, none =>
          match rest with
          | value :: behind =>
            if isPlain value then (sort? kind? behind).map (addOption name value) else none
          | [] => none
        | _, _ => none

/-- The values that an option was given. -/
def valuesOf (words : Words) (name : String) : List String :=
  (words.options.filter (fun option => option.1 == name)).map Prod.snd

/-- The value of an option that may be given once. -/
def value? (words : Words) (name : String) : Option (Option String) :=
  match words.valuesOf name with
  | [] => some none
  | [value] => some (some value)
  | _ => none

/-- Whether an option that may be given once was given. -/
def flag? (words : Words) (name : String) : Option Bool :=
  (words.value? name).map Option.isSome

/-- Which of two opposite options was given last, if either was.  The later one takes back the
earlier, and neither may be given twice in a row. -/
def lastOf? (words : Words) (first second : String) : Option (Option String) :=
  let given := (words.options.map Prod.fst).filter (fun name => name == first || name == second)
  if (given.zip (given.drop 1)).any (fun pair => pair.1 == pair.2) then none
  else some given.getLast?

end Words

end Receipt.CommandLine
