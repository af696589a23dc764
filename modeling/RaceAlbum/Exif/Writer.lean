import RaceAlbum.Exif.Basic

/-!
# A small picture with capture times

The smallest picture that tells when it was taken: one point, and a block of data with up to two texts, the moment of
the file in the first directory and the moment of capture in the directory of the camera.
-/

namespace RaceAlbum.Exif

/-- An entry whose values are a text with a zero at its end; a text that does not fit stands at a place. -/
def textEntry (order : ByteOrder) (number : Nat) (text : Bytes) (place : Nat) : Bytes :=
  let data := text ++ [0]
  Bytes.ofNumber order 2 number ++ Bytes.ofNumber order 2 TagBlock.textType ++ Bytes.ofNumber order 4 data.length ++
    (if data.length ≤ 4 then data ++ List.replicate (4 - data.length) 0 else Bytes.ofNumber order 4 place)

/-- What stands outside the entry of a text. -/
def textTail (text : Bytes) : Bytes := if text.length + 1 ≤ 4 then [] else text ++ [0]

/-- An entry with the place of a directory. -/
def placeEntry (order : ByteOrder) (number place : Nat) : Bytes :=
  Bytes.ofNumber order 2 number ++ Bytes.ofNumber order 2 4 ++ Bytes.ofNumber order 4 1 ++ Bytes.ofNumber order 4 place

/-- A directory of entries that no other follows. -/
def directoryOf (order : ByteOrder) (entries : List Bytes) : Bytes :=
  Bytes.ofNumber order 2 entries.length ++ entries.flatten ++ Bytes.ofNumber order 4 0

/-- The head of a block whose first directory follows at once. -/
def blockHead (order : ByteOrder) : Bytes :=
  (match order with
    | .big => [0x4D, 0x4D]
    | .little => [0x49, 0x49]) ++ Bytes.ofNumber order 2 42 ++ Bytes.ofNumber order 4 8

/-- The bytes of a directory of a number of entries. -/
def directorySize (entries : Nat) : Nat := 2 + 12 * entries + 4

/-- The block of data with the texts that are given. -/
def blockOf (order : ByteOrder) (capture file : Option Bytes) : Bytes :=
  let count := file.toList.length + capture.toList.length
  let afterFirst := 8 + directorySize count
  let fileTail := (file.map textTail).getD []
  let camera := afterFirst + fileTail.length
  let fileEntries := file.toList.map fun t => textEntry order fileTimeTag t afterFirst
  let cameraEntries := capture.toList.map fun _ => placeEntry order cameraTag camera
  let cameraDirectory := (capture.map fun t =>
    directoryOf order [textEntry order captureTag t (camera + directorySize 1)] ++ textTail t).getD []
  blockHead order ++ directoryOf order (fileEntries ++ cameraEntries) ++ fileTail ++ cameraDirectory

/-- A segment: its marker, its length and its content. -/
def segmentOf (marker : UInt8) (content : Bytes) : Bytes :=
  0xFF :: marker :: Bytes.ofNumber .big 2 (content.length + 2) ++ content

/-- The smallest picture with the texts that are given. -/
def pictureOf (order : ByteOrder) (capture file : Option Bytes) : Bytes :=
  [0xFF, 0xD8] ++ segmentOf 0xE1 (Picture.blockMark ++ blockOf order capture file) ++
    segmentOf 0xC0 [8, 0, 1, 0, 1, 1, 1, 0x11, 0] ++ segmentOf 0xDA [1, 1, 0, 0, 63, 0] ++ [0, 0xFF, 0xD9]

end RaceAlbum.Exif
