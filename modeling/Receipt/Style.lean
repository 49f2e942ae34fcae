/-!
# Text styles

A run of text is printed with six attributes.  Each attribute is a small closed type whose values
have the code the printer knows them by.  A style can also be seen as its six settings, one per
attribute, in the order in which they are sent.
-/

set_option autoImplicit false

namespace Receipt

/-- Where text stands on its share of the line. -/
inductive Alignment where
  | left
  | center
  | right
  deriving DecidableEq, Repr, Inhabited

namespace Alignment

/-- The printer's code. -/
def code : Alignment → UInt8
  | left => 0
  | center => 1
  | right => 2

/-- The alignment that the letter of a marker names, in either case. -/
def ofMarker? (letter : Char) : Option Alignment :=
  if letter = 'L' || letter = 'l' then some left
  else if letter = 'C' || letter = 'c' then some center
  else if letter = 'R' || letter = 'r' then some right
  else none

end Alignment

/-- The size of characters. -/
inductive TextSize where
  | normal
  | tall
  | wide
  | big
  | big2
  | big3
  | big4
  | big5
  | big6
  deriving DecidableEq, Repr, Inhabited

namespace TextSize

/-- The printer's code: the width in the high half, the height in the low half. -/
def code : TextSize → UInt8
  | normal => 0x00
  | tall => 0x01
  | wide => 0x10
  | big => 0x11
  | big2 => 0x22
  | big3 => 0x33
  | big4 => 0x44
  | big5 => 0x55
  | big6 => 0x66

/-- The size that a font attribute names. -/
def ofName? (name : List Char) : Option TextSize :=
  if name = "normal".toList then some normal
  else if name = "tall".toList then some tall
  else if name = "wide".toList then some wide
  else if name = "big".toList then some big
  else if name = "big-2".toList then some big2
  else if name = "big-3".toList then some big3
  else if name = "big-4".toList then some big4
  else if name = "big-5".toList then some big5
  else if name = "big-6".toList then some big6
  else none

/-- How many character cells one character takes. -/
def widthFactor : TextSize → Nat
  | normal => 1
  | tall => 1
  | wide => 2
  | big => 2
  | big2 => 3
  | big3 => 4
  | big4 => 5
  | big5 => 6
  | big6 => 7

end TextSize

/-- The colour of characters on two-colour paper. -/
inductive TextColor where
  | black
  | red
  deriving DecidableEq, Repr, Inhabited

namespace TextColor

/-- The printer's code. -/
def code : TextColor → UInt8
  | black => 0
  | red => 1

/-- The colour that a font attribute names; a background colour selects the plain colour. -/
def ofName? (name : List Char) : Option TextColor :=
  if name = "black".toList || name = "bg-black".toList then some black
  else if name = "red".toList || name = "bg-red".toList then some red
  else none

end TextColor

/-- White characters on a black ground. -/
inductive Reverse where
  | off
  | on
  deriving DecidableEq, Repr, Inhabited

/-- The printer's code. -/
def Reverse.code : Reverse → UInt8
  | off => 0
  | on => 1

/-- Emphasis. -/
inductive Weight where
  | normal
  | bold
  deriving DecidableEq, Repr, Inhabited

/-- The printer's code. -/
def Weight.code : Weight → UInt8
  | normal => 0
  | bold => 1

/-- A line of one or two dots below the characters. -/
inductive Underline where
  | off
  | thin
  | thick
  deriving DecidableEq, Repr, Inhabited

/-- The printer's code. -/
def Underline.code : Underline → UInt8
  | off => 0
  | thin => 1
  | thick => 2

/-- Printing every character twice in place. -/
inductive DoubleStrike where
  | off
  | on
  deriving DecidableEq, Repr, Inhabited

/-- The printer's code. -/
def DoubleStrike.code : DoubleStrike → UInt8
  | off => 0
  | on => 1

/-- The attributes a run of text is printed with. -/
structure TextStyle where
  size : TextSize
  color : TextColor
  reverse : Reverse
  weight : Weight
  underline : Underline
  doubleStrike : DoubleStrike
  deriving DecidableEq, Repr, Inhabited

/-- One attribute with its value. -/
inductive Setting where
  | size (value : TextSize)
  | doubleStrike (value : DoubleStrike)
  | underline (value : Underline)
  | weight (value : Weight)
  | color (value : TextColor)
  | reverse (value : Reverse)
  deriving DecidableEq, Repr

namespace TextStyle

/-- The style of a printer that was just reset. -/
def plain : TextStyle :=
  ⟨.normal, .black, .off, .normal, .off, .off⟩

/-- The six settings of a style, in the order in which they are sent before text. -/
def settings (style : TextStyle) : List Setting :=
  [.size style.size, .doubleStrike style.doubleStrike, .underline style.underline,
    .weight style.weight, .color style.color, .reverse style.reverse]

/-- The style with one attribute set. -/
def apply (style : TextStyle) : Setting → TextStyle
  | .size value => { style with size := value }
  | .doubleStrike value => { style with doubleStrike := value }
  | .underline value => { style with underline := value }
  | .weight value => { style with weight := value }
  | .color value => { style with color := value }
  | .reverse value => { style with reverse := value }

/-- Whether a style has a setting. -/
def has (style : TextStyle) (setting : Setting) : Bool :=
  style.apply setting == style

/-- The settings of a style that differ from those of the style before; all of them when that is not
known. -/
def changes (previous : Option TextStyle) (style : TextStyle) : List Setting :=
  match previous with
  | none => style.settings
  | some before => style.settings.filter (fun setting => !before.has setting)

end TextStyle

end Receipt
