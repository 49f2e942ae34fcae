import Receipt.Picture.Resample
import Receipt.Picture.Shading
import Receipt.Profile

/-!
# Pictures on paper

A picture that is wider than the paper or higher than 256 dots is made smaller with its proportions
kept; no picture is made larger.
-/

set_option autoImplicit false

namespace Receipt.Profile

open Receipt.Number

/-- The greatest height of a picture in dots. -/
def maxPictureHeight : Nat :=
  256

/-- A side scaled by the ratio of two others, at least one dot. -/
def scaleSide (side numerator denominator : Nat) : Nat :=
  let product := (Single.ofNat side).mul (Single.ofNat numerator)
  (max 1 ((product.div (Single.ofNat denominator)).roundHalfUp)).toNat

/-- The width and height of a picture on the paper: first made as narrow as the paper, then as low
as the greatest height. -/
def pictureSize (profile : Profile) (width height : Nat) : Nat × Nat :=
  let narrowed := if profile.widthPx < width then
      (profile.widthPx, scaleSide height profile.widthPx width)
    else (width, height)
  if maxPictureHeight < narrowed.2 then
    (scaleSide narrowed.1 maxPictureHeight narrowed.2, maxPictureHeight)
  else narrowed

/-- The dots of a picture on the paper. -/
def fitPicture (profile : Profile) (picture : Picture) (shading : Shading) :
    Except Failure Raster :=
  let size := profile.pictureSize picture.width picture.height
  (picture.resize size.1 size.2).toRaster shading

end Receipt.Profile
