import Receipt.Number.Shortest
import Receipt.Number.Word64
import Receipt.Text.Hex

/-!
# Why an operation fails

Every failure is one of seven kinds, and every kind lists its causes.  A cause carries what its
message needs; the wording stands in the `message` functions alone.
-/

set_option autoImplicit false

namespace Receipt

/-- The attributes of markup that hold a measure in millimetres. -/
inductive Measure where
  | barcodeHeight
  | barcodeWidth
  | qrSize
  deriving DecidableEq, Repr

/-- Markup that cannot be understood. -/
inductive MarkupFault where
  | badMeasure (measure : Measure)
  | unknownSymbology (name : List Char)
  deriving DecidableEq, Repr

/-- A bar code or QR symbol that cannot be built. -/
inductive BarcodeFault where
  | tooShort
  | notNumeric
  | notAscii (code : List Char)
  | tooLongForPaper
  | notSquare (width modules : Nat)
  | tooMuchData
  | reported (message : String)
  deriving DecidableEq, Repr

/-- Text outside a code page.  Some pages name the first character they lack. -/
inductive EncodingFault where
  | unrepresentable (text : List Char) (page : String) (culprit : Option Char)
  deriving DecidableEq, Repr

/-- A file that cannot be opened, read or written. -/
inductive FileFault where
  | notFound
  | notDirectory
  | isDirectory
  | deviceFull
  | noDevice
  | nameTooLong
  | nameHoldsNul
  | notUtf8
  deriving DecidableEq, Repr

/-- A printer that cannot be reached. -/
inductive ConnectionFault where
  | notConnected
  | cannotOpen (path : String) (cause : FileFault)
  | writeFailed (cause : FileFault)
  | reported (message : String)
  deriving DecidableEq, Repr

/-- A printer description that cannot be used. -/
inductive ProfileFault where
  | zeroResolution
  | badWidth (width : Number.Single)
  | zeroCharacters
  | unknownName (name : String)
  | unreadableResolution (text : List Char)
  | unreadableWidth (text : List Char)
  | unreadableCharacters (text : List Char)
  | unknownCharset (label : List Char)
  | unreadableJson
  deriving DecidableEq, Repr

/-- The bytes of a pixel map that cannot be understood. -/
inductive PixelMapFault where
  | badMark (first second : UInt8)
  | notAscii (byte : UInt8)
  | badDigit
  | numberTooLarge
  | noMaximum
  | maximumTooLarge (greatest : Nat)
  deriving DecidableEq, Repr

/-- A picture file that cannot be loaded. -/
inductive PictureFault where
  | file (cause : FileFault)
  | unknownFormat
  | unknownExtension (extension : List Char)
  | otherFormat (name : String)
  | noNumber
  | tooShort
  | pixelMap (cause : PixelMapFault)
  | otherMaximum (greatest : Nat)
  | tooManyColors (width height : Nat)
  | tooManyBytes
  deriving DecidableEq, Repr

/-- An image that cannot be described or decoded. -/
inductive ImageFault where
  | tooLarge (bytesPerRow rows : Nat)
  | wrongSize (bytesPerRow rows got : Nat)
  | shortHeader (got : Nat)
  | shortData (bytesPerRow rows got : Nat)
  | badHex (cause : Text.HexFault)
  | tooWideForStrips (dots : Nat)
  | symbolTooLarge (size : Int)
  | cannotOpen (path : String) (cause : PictureFault)
  deriving DecidableEq, Repr

/-- Why an operation fails. -/
inductive Failure where
  | markup (cause : MarkupFault)
  | barcode (cause : BarcodeFault)
  | encoding (cause : EncodingFault)
  | connection (cause : ConnectionFault)
  | profile (cause : ProfileFault)
  | image (cause : ImageFault)
  | file (cause : FileFault)
  deriving DecidableEq, Repr

/-- The wording for a measure that is no number. -/
def Measure.message : Measure → String
  | barcodeHeight => "Invalid barcode height value"
  | barcodeWidth => "Invalid barcode width value"
  | qrSize => "Invalid QR code size value"

/-- The wording of a cause. -/
def MarkupFault.message : MarkupFault → String
  | badMeasure measure => measure.message
  | unknownSymbology name => "Invalid barcode attribute: " ++ String.ofList name

/-- The wording of a cause. -/
def BarcodeFault.message : BarcodeFault → String
  | tooShort => "Code is too short for the barcode type."
  | notNumeric => "Invalid barcode number"
  | notAscii code => "Barcode data must be ASCII: " ++ Text.quoteText code
  | tooLongForPaper => "Barcode is too long for the paper size."
  | notSquare width modules =>
    "QR matrix of width " ++ toString width ++ " needs " ++
      toString (Number.unsigned64 (width * width)) ++ " modules, got " ++ toString modules
  | tooMuchData => "Unable to encode QR code: data too long"
  | reported message => message

/-- A code point in at least four upper case hexadecimal digits. -/
def codePointText (c : Char) : String :=
  let digits := (Nat.toDigits 16 c.toNat).map Char.toUpper
  String.ofList (List.replicate (4 - digits.length) '0' ++ digits)

/-- The wording of a cause. -/
def EncodingFault.message : EncodingFault → String
  | unrepresentable text page culprit =>
    let place := match culprit with
      | none => ""
      | some c => " (U+" ++ codePointText c ++ ")"
    Text.quoteText text ++ " cannot be represented in " ++ page ++ place

/-- The wording of a cause. -/
def FileFault.message : FileFault → String
  | notFound => "No such file or directory (os error 2)"
  | notDirectory => "Not a directory (os error 20)"
  | isDirectory => "Is a directory (os error 21)"
  | deviceFull => "No space left on device (os error 28)"
  | noDevice => "No such device or address (os error 6)"
  | nameTooLong => "File name too long (os error 36)"
  | nameHoldsNul => "file name contained an unexpected NUL byte"
  | notUtf8 => "stream did not contain valid UTF-8"

/-- The wording of a cause. -/
def ConnectionFault.message : ConnectionFault → String
  | notConnected => "Unable to send data to device."
  | cannotOpen path cause => "Failed to open " ++ path ++ ": " ++ cause.message
  | writeFailed cause => "Write failed: " ++ cause.message
  | reported message => message

/-- The wording of a cause. -/
def ProfileFault.message : ProfileFault → String
  | zeroResolution => "dpi must be positive"
  | badWidth width => "paper width must be positive, got " ++ width.text
  | zeroCharacters => "characters per line must be positive"
  | unknownName name =>
    "Unknown profile '" ++ name ++ "'. Use '58mm', '80mm' or 'DPI:WIDTH_MM:CHARS'"
  | unreadableResolution text => "Invalid dpi: " ++ String.ofList text
  | unreadableWidth text => "Invalid width: " ++ String.ofList text
  | unreadableCharacters text => "Invalid characters per line: " ++ String.ofList text
  | unknownCharset label => "Unknown charset: " ++ String.ofList label
  | unreadableJson => "Invalid profile JSON"

/-- The number of a byte in two upper case hexadecimal digits. -/
def byteText (byte : UInt8) : String :=
  let digits := (Nat.toDigits 16 byte.toNat).map Char.toUpper
  "0x" ++ String.ofList (List.replicate (2 - digits.length) '0' ++ digits)

/-- The wording of a cause. -/
def PixelMapFault.message : PixelMapFault → String
  | badMark first second =>
    "Expected magic constant for PNM: P1..P7, got [" ++ byteText first ++ ", " ++
      byteText second ++ "]"
  | notAscii byte => "Non-ASCII character " ++ byteText byte ++ " in header"
  | badDigit => "Non-ASCII-digit character when parsing number in number in preamble"
  | numberTooLarge => "Overflow when parsing integer in number in preamble"
  | noMaximum => "Image MAXVAL is zero"
  | maximumTooLarge greatest => "Image MAXVAL exceeds 65535: " ++ toString greatest

/-- The wording of a cause. -/
def PictureFault.message : PictureFault → String
  | file cause => cause.message
  | unknownFormat => "The image format could not be determined"
  | unknownExtension extension =>
    "The file extension `." ++ Text.quoteText extension ++ "` was not recognized as an image format"
  | otherFormat name => "The image format " ++ name ++ " is not supported"
  | noNumber => "unexpected end of file"
  | tooShort => "failed to fill whole buffer"
  | pixelMap cause => "Format error decoding Pnm: " ++ cause.message
  | otherMaximum greatest =>
    "The decoder for Pnm does not support the format features MAXVAL " ++ toString greatest
  | tooManyColors width height =>
    "The decoder for Pnm does not support the format features Image dimensions (" ++
      toString width ++ "x" ++ toString height ++ ") are too large"
  | tooManyBytes => "Memory limit exceeded"

/-- The wording of a cause. -/
def ImageFault.message : ImageFault → String
  | tooLarge bytesPerRow rows =>
    toString bytesPerRow ++ "x" ++ toString rows ++ " exceeds the raster envelope limits"
  | wrongSize bytesPerRow rows got =>
    "expected " ++ toString (bytesPerRow * rows) ++ " bytes for " ++ toString rows ++
      " rows of " ++ toString bytesPerRow ++ " bytes, got " ++ toString got
  | shortHeader got => "raster envelope needs 8 header bytes, got " ++ toString got
  | shortData bytesPerRow rows got =>
    "raster envelope declares " ++ toString rows ++ " rows of " ++ toString bytesPerRow ++
      " bytes but carries " ++ toString got ++ " data bytes"
  | badHex cause => "invalid image hex: " ++ cause.message
  | tooWideForStrips dots => toString dots ++ " dots is too wide for strip printing"
  | symbolTooLarge size =>
    "QR code of " ++ toString size ++ " dots exceeds the raster envelope limits"
  | cannotOpen path cause => "Failed to open " ++ path ++ ": " ++ cause.message

/-- The whole message: the kind of failure and the wording of its cause. -/
def Failure.message : Failure → String
  | markup cause => "Parse error: " ++ cause.message
  | barcode cause => "Barcode error: " ++ cause.message
  | encoding cause => "Encoding error: " ++ cause.message
  | connection cause => "Connection error: " ++ cause.message
  | profile cause => "Invalid profile: " ++ cause.message
  | image cause => "Image error: " ++ cause.message
  | file cause => "I/O error: " ++ cause.message

end Receipt
