/-!
# JSON values

A value keeps what a reader may still refuse: a number keeps its notation, because an integer is not
the same as a fraction of the same value, and a text or a name whose escapes make no characters is
kept as unreadable, because it does no harm where nobody reads it.
-/

set_option autoImplicit false

namespace Receipt

/-- The notation of a number: its digits before the point, those behind it if there is a point, and
the sign and the digits of its exponent if it has one. -/
structure JsonNumber where
  negative : Bool
  whole : List Char
  fraction : Option (List Char)
  exponent : Option (Bool × List Char)
  deriving DecidableEq, Repr

/-- A JSON value; a text is `none` when its escapes make no characters. -/
inductive Json where
  | null
  | bool (value : Bool)
  | number (literal : JsonNumber)
  | string (text : Option (List Char))
  | array (items : List Json)
  | object (members : List (Option (List Char) × Json))

end Receipt
