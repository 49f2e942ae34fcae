import Receipt.Json

/-!
# Reading JSON

The strict grammar: no comments, no trailing commas or text, no leading zeros, no control characters
inside a text.  Every reader takes the text from where it stands and returns what it read with the
rest of the text.
-/

set_option autoImplicit false

namespace Receipt.Json

/-- The text behind the blanks at its start. -/
def skipBlanks (text : List Char) : List Char :=
  text.dropWhile (fun c => c == ' ' || c == '\t' || c == '\n' || c == '\r')

/-- The value of a hexadecimal digit of either case. -/
def hexValue? (c : Char) : Option Nat :=
  if c.isDigit then some (c.toNat - 48)
  else if 'a' ≤ c && c ≤ 'f' then some (c.toNat - 87)
  else if 'A' ≤ c && c ≤ 'F' then some (c.toNat - 55)
  else none

/-- The number that four hexadecimal digits write. -/
def codeUnit? (a b c d : Char) : Option Nat :=
  match hexValue? a, hexValue? b, hexValue? c, hexValue? d with
  | some a, some b, some c, some d => some (((a * 16 + b) * 16 + c) * 16 + d)
  | _, _, _, _ => none

/-- The character that a letter behind a backslash stands for. -/
def escapeLetter? (letter : Char) : Option Char :=
  if letter = '"' || letter = '\\' || letter = '/' then some letter
  else if letter = 'b' then some (Char.ofNat 8)
  else if letter = 'f' then some (Char.ofNat 12)
  else if letter = 'n' then some '\n'
  else if letter = 'r' then some '\r'
  else if letter = 't' then some '\t'
  else none

/-- Whether a code unit is the first half of a pair. -/
def isLead (unit : Nat) : Bool :=
  0xd800 ≤ unit && unit < 0xdc00

/-- Whether a code unit is the second half of a pair. -/
def isTrail (unit : Nat) : Bool :=
  0xdc00 ≤ unit && unit < 0xe000

/-- The code point of a pair. -/
def pairedCode (lead trail : Nat) : Nat :=
  0x10000 + (lead - 0xd800) * 0x400 + (trail - 0xdc00)

/-- Put the character of a code point in front of those already read, last one first. -/
def pushCode (done : Option (List Char)) (code : Nat) : Option (List Char) :=
  done.map (Char.ofNat code :: ·)

/-- Read a text behind its opening quote.  The characters already read, last one first, are `none`
once an escape has made no character. -/
def readText? (done : Option (List Char)) : List Char → Option (Option (List Char) × List Char)
  | [] => none
  | '"' :: rest => some (done.map List.reverse, rest)
  | '\\' :: 'u' :: a :: b :: c :: d :: rest =>
    match codeUnit? a b c d with
    | none => none
    | some unit =>
      if isTrail unit then readText? none rest
      else if isLead unit then
        match rest with
        | '\\' :: 'u' :: e :: f :: g :: h :: after =>
          match codeUnit? e f g h with
          | none => none
          | some second =>
            if isTrail second then readText? (pushCode done (pairedCode unit second)) after
            else readText? none after
        | other => readText? none other
      else readText? (pushCode done unit) rest
  | '\\' :: letter :: rest =>
    match escapeLetter? letter with
    | some c => readText? (done.map (c :: ·)) rest
    | none => none
  | c :: rest =>
    if c = '\\' || c.toNat < 0x20 then none else readText? (done.map (c :: ·)) rest
termination_by text => text.length

/-- Read the digits before the point: a zero alone, or digits that start with another one. -/
def readWhole? (text : List Char) : Option (List Char × List Char) :=
  let digits := text.takeWhile Char.isDigit
  match digits with
  | [] => none
  | '0' :: _ :: _ => none
  | _ => some (digits, text.dropWhile Char.isDigit)

/-- Read at least one digit. -/
def readDigits? (text : List Char) : Option (List Char × List Char) :=
  let digits := text.takeWhile Char.isDigit
  if digits.isEmpty then none else some (digits, text.dropWhile Char.isDigit)

/-- Read the point and the digits behind it, if there is a point. -/
def readFraction? (text : List Char) : Option (Option (List Char) × List Char) :=
  match text with
  | '.' :: rest => (readDigits? rest).map (fun read => (some read.1, read.2))
  | _ => some (none, text)

/-- Read an exponent, if there is one. -/
def readExponent? (text : List Char) : Option (Option (Bool × List Char) × List Char) :=
  match text with
  | [] => some (none, [])
  | mark :: rest =>
    if mark = 'e' || mark = 'E' then
      match rest with
      | '+' :: digits => (readDigits? digits).map (fun read => (some (false, read.1), read.2))
      | '-' :: digits => (readDigits? digits).map (fun read => (some (true, read.1), read.2))
      | _ => (readDigits? rest).map (fun read => (some (false, read.1), read.2))
    else some (none, text)

/-- Read a number. -/
def readNumber? (text : List Char) : Option (JsonNumber × List Char) := do
  let negative := text.head? == some '-'
  let (whole, afterWhole) ← readWhole? (if negative then text.drop 1 else text)
  let (fraction, afterFraction) ← readFraction? afterWhole
  let (exponent, rest) ← readExponent? afterFraction
  pure (⟨negative, whole, fraction, exponent⟩, rest)

/-- Read a word that stands for a value. -/
def readWord? (word : String) (value : Json) (text : List Char) : Option (Json × List Char) :=
  if word.toList.isPrefixOf text then some (value, text.drop word.length) else none

/-- The braces of an object. -/
def openBrace : Char :=
  Char.ofNat 0x7b

/-- The closing brace of an object. -/
def closeBrace : Char :=
  Char.ofNat 0x7d

mutual

/-- Read a value. -/
def readValue? (fuel : Nat) (text : List Char) : Option (Json × List Char) :=
  match fuel with
  | 0 => none
  | fuel + 1 =>
    match skipBlanks text with
    | [] => none
    | c :: rest =>
      if c = '"' then
        (readText? (some []) rest).map (fun read => (.string read.1, read.2))
      else if c = '[' then
        match skipBlanks rest with
        | ']' :: after => some (.array [], after)
        | _ => (readItems? fuel rest).map (fun read => (.array read.1, read.2))
      else if c = openBrace then
        if (skipBlanks rest).head? = some closeBrace then
          some (.object [], (skipBlanks rest).drop 1)
        else (readMembers? fuel rest).map (fun read => (.object read.1, read.2))
      else if c = 'n' then readWord? "null" .null (c :: rest)
      else if c = 't' then readWord? "true" (.bool true) (c :: rest)
      else if c = 'f' then readWord? "false" (.bool false) (c :: rest)
      else (readNumber? (c :: rest)).map (fun read => (.number read.1, read.2))

/-- Read the items of an array up to its closing bracket; there is at least one. -/
def readItems? (fuel : Nat) (text : List Char) : Option (List Json × List Char) :=
  match fuel with
  | 0 => none
  | fuel + 1 =>
    match readValue? fuel text with
    | none => none
    | some (item, rest) =>
      match skipBlanks rest with
      | ',' :: after => (readItems? fuel after).map (fun read => (item :: read.1, read.2))
      | ']' :: after => some ([item], after)
      | _ => none

/-- Read the members of an object up to its closing brace; there is at least one. -/
def readMembers? (fuel : Nat) (text : List Char) :
    Option (List (Option (List Char) × Json) × List Char) :=
  match fuel with
  | 0 => none
  | fuel + 1 =>
    match skipBlanks text with
    | '"' :: afterQuote =>
      match readText? (some []) afterQuote with
      | none => none
      | some (name, afterName) =>
        match skipBlanks afterName with
        | ':' :: afterColon =>
          match readValue? fuel afterColon with
          | none => none
          | some (value, rest) =>
            match skipBlanks rest with
            | ',' :: after =>
              (readMembers? fuel after).map (fun read => ((name, value) :: read.1, read.2))
            | c :: after => if c = closeBrace then some ([(name, value)], after) else none
            | [] => none
        | _ => none
    | _ => none

end

/-- The value of a text that holds nothing beside it. -/
def read? (text : List Char) : Option Json :=
  match readValue? (2 * text.length + 2) text with
  | some (value, rest) => if (skipBlanks rest).isEmpty then some value else none
  | none => none

end Receipt.Json
