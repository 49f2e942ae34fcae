import Receipt.Json.Number
import Receipt.Json.Reader
import Receipt.Profile

/-!
# Profiles in JSON

A profile is an object, or an array of the same values in a fixed order.  Its resolution and its
characters per line are integers, its width is any number, and its charset, which may be missing or
null, is an object or array of a label and a table number.  Other members are ignored; a member of
the profile that is missing or given twice makes the whole text unreadable.
-/

set_option autoImplicit false

namespace Receipt.Profile

/-- What a text says about a profile before it is checked. -/
structure Description where
  dpi : Nat
  widthMm : Number.Single
  charsPerLine : Nat
  charset : Option (List Char × UInt8)

namespace Description

/-- The values that an object gives to a name. -/
def valuesOf (name : String) (members : List (Option (List Char) × Json)) : List Json :=
  (members.filter (fun member => member.1 == some name.toList)).map Prod.snd

/-- The value of a member that must be there. -/
def required? (name : String) (members : List (Option (List Char) × Json)) : Option Json :=
  match valuesOf name members with
  | [value] => some value
  | _ => none

/-- The value of a member that may be missing. -/
def optional? (name : String) (members : List (Option (List Char) × Json)) : Option Json :=
  match valuesOf name members with
  | [] => some .null
  | [value] => some value
  | _ => none

/-- Whether all names of an object can be read. -/
def hasNames (members : List (Option (List Char) × Json)) : Bool :=
  members.all (fun member => member.1.isSome)

/-- A natural number of at most `limit`. -/
def natural? (limit : Nat) : Json → Option Nat
  | .number literal => literal.natural? limit
  | _ => none

/-- A number in single precision. -/
def single? : Json → Option Number.Single
  | .number literal => literal.single?
  | _ => none

/-- A text. -/
def text? : Json → Option (List Char)
  | .string text => text
  | _ => none

/-- A charset by its label and its table number. -/
def charsetParts? (label id : Json) : Option (Option (List Char × UInt8)) := do
  let label ← text? label
  let id ← natural? 255 id
  pure (some (label, UInt8.ofNat id))

/-- A charset, or nothing. -/
def charset? : Json → Option (Option (List Char × UInt8))
  | .null => some none
  | .array [label, id] => charsetParts? label id
  | .object members =>
    if hasNames members then do
      let label ← required? "label" members
      let id ← required? "id" members
      charsetParts? label id
    else none
  | _ => none

/-- A description by its four values. -/
def ofParts? (dpi width characters charset : Json) : Option Description := do
  let dpi ← natural? 4294967295 dpi
  let widthMm ← single? width
  let charsPerLine ← natural? 18446744073709551615 characters
  let charset ← charset? charset
  pure ⟨dpi, widthMm, charsPerLine, charset⟩

/-- The description that a value holds. -/
def ofJson? : Json → Option Description
  | .array [dpi, width, characters] => ofParts? dpi width characters .null
  | .array [dpi, width, characters, charset] => ofParts? dpi width characters charset
  | .object members =>
    if hasNames members then do
      let dpi ← required? "dpi" members
      let width ← required? "width_mm" members
      let characters ← required? "chars_per_line" members
      let charset ← optional? "charset" members
      ofParts? dpi width characters charset
    else none
  | _ => none

/-- The profile of a description. -/
def toProfile (description : Description) : Except Failure Profile :=
  match make description.dpi description.widthMm description.charsPerLine with
  | .error failure => .error failure
  | .ok profile =>
    match description.charset with
    | none => .ok profile
    | some (label, id) =>
      match Charset.ofLabel label id with
      | .error failure => .error failure
      | .ok charset => .ok (profile.withCharset charset)

end Description

/-- The profile that a JSON text describes. -/
def ofJsonText (text : List Char) : Except Failure Profile :=
  match Json.read? text with
  | none => .error (.profile .unreadableJson)
  | some value =>
    match Description.ofJson? value with
    | none => .error (.profile .unreadableJson)
    | some description => description.toProfile

end Receipt.Profile
