import Receipt.Number.Decimal
import Receipt.Profile
import Receipt.Text.Lowercase

/-!
# Names of profiles

A profile is named by its paper, `58mm` or `80mm`, or spelled out as resolution, width and
characters per line between colons.  Blanks around a name and the case of its letters do not matter.
-/

set_option autoImplicit false

namespace Receipt.Profile

/-- The parts of a text between colons. -/
def colonParts (text : List Char) : List (List Char) :=
  text.splitOn ':'

/-- The profile with a given name. -/
def ofName (name : String) : Except Failure Profile :=
  let text := Text.lowercase (Text.trim name.toList)
  if text = "58mm".toList || text = "58".toList then .ok mm58
  else if text = "80mm".toList || text = "80".toList then .ok mm80
  else
    match colonParts text with
    | [resolution, width, characters] =>
      match Number.readNat? 4294967295 resolution with
      | none => .error (.profile (.unreadableResolution resolution))
      | some dpi =>
        match Number.Single.read? width with
        | none => .error (.profile (.unreadableWidth width))
        | some widthMm =>
          match Number.readNat? 18446744073709551615 characters with
          | none => .error (.profile (.unreadableCharacters characters))
          | some charsPerLine => make dpi widthMm charsPerLine
    | _ => .error (.profile (.unknownName name))

end Receipt.Profile
