import RaceAlbum.Number.Digits
import RaceAlbum.Text.Quoted

/-!
# Faults of pictures

A picture that cannot be read at all tells nothing, and no one hears of it. A picture that begins well and breaks its
format where the data about it are looked for has a fault, which is reported.
-/

namespace RaceAlbum

/-- How a picture breaks its format. -/
inductive PictureFault where
  | notATagBlock (header : Bytes)
  | brokenName (name : Bytes)
  | shortNumbers (needed : Nat)
  | shortNumber (width start size : Nat)
  | missingByte
  | unknownPacking (method : Nat) (chunk : String)
  | unknownFilter
  | partsOutOfOrder
  | partOutside
  | blockIsText
  | sheetIsText
deriving DecidableEq

/-- What a fault is about: the form of something, the size of a field, the place of a byte, or a text that stands where
bytes are needed. -/
inductive PictureFaultKind where
  | form
  | size
  | place
  | text
deriving DecidableEq

namespace PictureFault

/-- What the fault is about. -/
def kind : PictureFault → PictureFaultKind
  | notATagBlock _ | brokenName _ | unknownPacking .. | unknownFilter | partsOutOfOrder | partOutside => .form
  | shortNumbers _ | shortNumber .. => .size
  | missingByte => .place
  | blockIsText | sheetIsText => .text

/-- The fault in words. -/
def words : PictureFault → String
  | notATagBlock header => "not a TIFF file (header " ++ quotedBytes header ++ " not valid)"
  | shortNumbers needed => "unpack requires a buffer of " ++ natText needed ++ " bytes"
  | brokenName name => "broken PNG file (chunk " ++ quotedBytes name ++ ")"
  | shortNumber width start size =>
    "unpack_from requires a buffer of at least " ++ natText (start + width) ++ " bytes for unpacking " ++
      natText width ++ " bytes at offset " ++ natText start ++ " (actual buffer size is " ++ natText size ++ ")"
  | missingByte => "index out of range"
  | unknownPacking method chunk =>
    "Unknown compression method " ++ natText method ++ " in " ++ chunk ++ " chunk"
  | unknownFilter => "unknown filter category"
  | partsOutOfOrder => "APNG contains frame sequence errors"
  | partOutside => "APNG contains invalid frames"
  | blockIsText => "startswith first arg must be str or a tuple of str, not bytes"
  | sheetIsText => "cannot use a bytes pattern on a string-like object"

end PictureFault

end RaceAlbum
