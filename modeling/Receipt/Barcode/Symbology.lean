/-!
# Bar code symbologies

A symbology prescribes the form of its codes and how many bars a code takes.  A code with a check
digit has a fixed number of digits, the last one being computed; a plain numeric code has a fixed
number of digits; any other code is ASCII text of any length.
-/

set_option autoImplicit false

namespace Receipt

/-- The kinds of bar codes. -/
inductive Symbology where
  | upcA
  | upcE
  | ean13
  | ean8
  | code39
  | code128
  deriving DecidableEq, Repr, Inhabited

/-- What a code must look like. -/
inductive CodeForm where
  | checked (length : Nat)
  | digits (length : Nat)
  | ascii
  deriving DecidableEq, Repr

namespace Symbology

/-- The symbology that an attribute names. -/
def ofName? (name : List Char) : Option Symbology :=
  if name = "upca".toList then some upcA
  else if name = "upce".toList then some upcE
  else if name = "ean13".toList then some ean13
  else if name = "ean8".toList then some ean8
  else if name = "39".toList then some code39
  else if name = "128".toList then some code128
  else none

/-- The printer's code. -/
def typeCode : Symbology → UInt8
  | upcA => 65
  | upcE => 66
  | ean13 => 67
  | ean8 => 68
  | code39 => 69
  | code128 => 73

/-- The form of the codes. -/
def form : Symbology → CodeForm
  | upcA => .checked 12
  | upcE => .digits 6
  | ean13 => .checked 13
  | ean8 => .checked 8
  | code39 => .ascii
  | code128 => .ascii

/-- How many modules one character of a code takes. -/
def modulesPerCharacter : Symbology → Nat
  | upcA => 7
  | upcE => 7
  | ean13 => 7
  | ean8 => 7
  | code39 => 16
  | code128 => 11

/-- How many modules a code takes beside its characters. -/
def extraModules : Symbology → Nat
  | upcA => 11
  | upcE => 16
  | ean13 => 11
  | ean8 => 11
  | code39 => 64
  | code128 => 55

/-- How many modules a code of the given length takes. -/
def modules (symbology : Symbology) (length : Nat) : Nat :=
  length * symbology.modulesPerCharacter + symbology.extraModules

end Symbology

end Receipt
