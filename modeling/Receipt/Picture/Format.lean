import Receipt.FileStore.Path
import Receipt.Number.Decimal

/-!
# Formats of picture files

The format of a picture file is told by the extension of its name, in any case.  A name that starts
with its only point has no extension.  Of all formats the portable pixel maps alone can be read.
-/

set_option autoImplicit false

namespace Receipt.Picture

/-- The extension of a name: what stands behind its last point, if something stands before it. -/
def extension? (name : List Char) : Option (List Char) :=
  let backwards := name.reverse
  let extension := (backwards.takeWhile (· != '.')).reverse
  let stem := (backwards.dropWhile (· != '.')).drop 1
  if stem.isEmpty || extension.isEmpty then none else some extension

/-- The extensions of the portable pixel maps. -/
def pixelMapExtensions : List String :=
  ["pbm", "pam", "ppm", "pgm", "pnm"]

/-- The extensions of other formats, each beside the name of its format. -/
def otherExtensions : List (String × String) :=
  [("avif", "Avif"), ("jpg", "Jpeg"), ("jpeg", "Jpeg"), ("jfif", "Jpeg"), ("png", "Png"),
    ("apng", "Png"), ("gif", "Gif"), ("webp", "WebP"), ("tif", "Tiff"), ("tiff", "Tiff"),
    ("tga", "Tga"), ("dds", "Dds"), ("bmp", "Bmp"), ("ico", "Ico"), ("hdr", "Hdr"),
    ("exr", "OpenExr"), ("ff", "Farbfeld"), ("qoi", "Qoi")]

/-- Why a file with the given path is no pixel map, if its name says so. -/
def formatFault? (path : String) : Option PictureFault :=
  let name := match Path.ofText path with
    | .ok way => way.lastName?.getD ""
    | .error _ => ""
  match extension? name.toList with
  | none => some .unknownFormat
  | some extension =>
    let folded := Number.foldAscii extension
    if pixelMapExtensions.any (fun known => known.toList == folded) then none
    else
      match otherExtensions.find? (fun entry => entry.1.toList == folded) with
      | some entry => some (.otherFormat entry.2)
      | none => some (.unknownExtension extension)

end Receipt.Picture
