import Receipt.CodePage

/-!
# Printer profiles

A profile is the geometry of a printer and the charset its text is written in.  It says how many
dots a measure in millimetres is, how wide the paper is in dots and how many of them one character
takes.  The width in dots is the rounded width plus its remainder by eight, which is the width that
images and bar codes are sized for.
-/

set_option autoImplicit false

namespace Receipt

/-- The geometry of a printer, with which text can be laid out, and its charset. -/
structure Profile where
  dpi : Nat
  widthMm : Number.Single
  charsPerLine : Nat
  charset : Charset
  dpi_pos : 0 < dpi
  widthMm_finite : widthMm.isFinite = true
  widthMm_positive : widthMm.isPositive = true
  charsPerLine_pos : 0 < charsPerLine
  deriving DecidableEq

namespace Profile

/-- The millimetres of an inch. -/
def inch : Number.Single :=
  Number.Single.ofRatio 254 10

/-- The dots of a measure in millimetres at a resolution, a half going up, within 32 signed bits. -/
def dotsAt (dpi : Nat) (mm : Number.Single) : Int :=
  (mm.mul (Number.Single.ofNat dpi)).div inch |>.roundHalfUp

/-- The dots of a measure in millimetres. -/
def mmToPx (profile : Profile) (mm : Number.Single) : Int :=
  dotsAt profile.dpi mm

/-- The rounded width of the paper in dots. -/
def rasterPx (profile : Profile) : Nat :=
  (profile.mmToPx profile.widthMm).toNat

/-- The width of the paper in dots. -/
def widthPx (profile : Profile) : Nat :=
  profile.rasterPx + profile.rasterPx % 8

/-- The dots that one character of normal size takes. -/
def charWidthPx (profile : Profile) : Nat :=
  profile.rasterPx / profile.charsPerLine

/-- The profile with another charset. -/
def withCharset (profile : Profile) (charset : Charset) : Profile :=
  { profile with charset := charset }

/-- The profile of a geometry in which text can be laid out. -/
def make (dpi : Nat) (widthMm : Number.Single) (charsPerLine : Nat) : Except Failure Profile :=
  if dpi_pos : 0 < dpi then
    if width : widthMm.isFinite = true ∧ widthMm.isPositive = true then
      if charsPerLine_pos : 0 < charsPerLine then
        .ok ⟨dpi, widthMm, charsPerLine, .standard, dpi_pos, width.1, width.2, charsPerLine_pos⟩
      else .error (.profile .zeroCharacters)
    else .error (.profile (.badWidth widthMm))
  else .error (.profile .zeroResolution)

/-- Paper of 58 mm: 48 mm printable in 32 characters. -/
def mm58 : Profile :=
  ⟨203, Number.Single.ofNat 48, 32, .standard, by decide, by decide +kernel, by decide +kernel,
    by decide⟩

/-- Paper of 80 mm: 72 mm printable in 48 characters. -/
def mm80 : Profile :=
  ⟨203, Number.Single.ofNat 72, 48, .standard, by decide, by decide +kernel, by decide +kernel,
    by decide⟩

instance : Inhabited Profile :=
  ⟨mm58⟩

end Profile

end Receipt
