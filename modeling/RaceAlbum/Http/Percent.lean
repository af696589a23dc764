import RaceAlbum.Bytes
import RaceAlbum.Uuid

/-!
# Percent encoding

An address holds few characters as they are. The others are written byte by byte in UTF-8, each byte as a percent sign
and two hexadecimal digits in capitals; in a query a blank is a plus sign.
-/

namespace RaceAlbum

/-- A byte as a percent sign and two hexadecimal digits in capitals. -/
def percentByte (b : UInt8) : List Char := '%' :: (hexDigits 2 b.toNat).map Char.toUpper

/-- A character byte by byte. -/
def percentChar (c : Char) : List Char := (String.utf8EncodeChar c).flatMap percentByte

/-- A text of which only some characters stay as they are. -/
def percentEncode (stays : Char → Bool) (s : String) : String :=
  String.ofList (s.toList.flatMap fun c => if stays c then [c] else percentChar c)

/-- The characters that stay as they are everywhere. -/
def isUnreserved (c : Char) : Bool := c.isAlphanum || "_.-~".toList.contains c

/-- The characters that stay as they are in a whole address. -/
def isAddressChar (c : Char) : Bool := isUnreserved c || ":/%#?=@[]!$&'()*+,;".toList.contains c

/-- An address with its foreign characters encoded. -/
def encodeAddress (s : String) : String := percentEncode isAddressChar s

/-- A name or a value of a query. -/
def encodeQueryPart (s : String) : String :=
  String.ofList (s.toList.flatMap fun c => if c = ' ' then ['+'] else if isUnreserved c then [c] else percentChar c)

/-- A query: names and values with signs between them. -/
def encodeQuery (pairs : List (String × String)) : String :=
  String.intercalate "&" (pairs.map fun (name, value) => encodeQueryPart name ++ "=" ++ encodeQueryPart value)

/-! ## Decoding -/

/-- How a character begins in UTF-8: how many bytes follow, between which limits the first of them lies, and the bits
of the character. -/
def leadByte? (b : Nat) : Option (Nat × Nat × Nat × Nat) :=
  if 0xC2 ≤ b ∧ b ≤ 0xDF then some (1, 0x80, 0xBF, b - 0xC0)
  else if b = 0xE0 then some (2, 0xA0, 0xBF, 0)
  else if b = 0xED then some (2, 0x80, 0x9F, 0xD)
  else if 0xE1 ≤ b ∧ b ≤ 0xEF then some (2, 0x80, 0xBF, b - 0xE0)
  else if b = 0xF0 then some (3, 0x90, 0xBF, 0)
  else if 0xF1 ≤ b ∧ b ≤ 0xF3 then some (3, 0x80, 0xBF, b - 0xF0)
  else if b = 0xF4 then some (3, 0x80, 0x8F, 4)
  else none

/-- Goes on with a character of which `left` bytes are to come, the next one between two limits: the character, or a
mark of replacement for the bytes read so far, and the rest. -/
def followBytes (left low high bits : Nat) : Bytes → Char × Bytes
  | [] => if left = 0 then (Char.ofNat bits, []) else ('\uFFFD', [])
  | b :: rest =>
    if left = 0 then (Char.ofNat bits, b :: rest)
    else if low ≤ b.toNat ∧ b.toNat ≤ high then followBytes (left - 1) 0x80 0xBF (bits * 64 + b.toNat % 64) rest
    else ('\uFFFD', b :: rest)

/-- A text of bytes in UTF-8. Bytes that begin no character, or a character that breaks off, are a mark of replacement
each. -/
def textOfBytes : (fuel : Nat) → Bytes → List Char
  | 0, _ => []
  | _, [] => []
  | fuel + 1, b :: rest =>
    if b < 0x80 then Char.ofNat b.toNat :: textOfBytes fuel rest
    else match leadByte? b.toNat with
      | none => '\uFFFD' :: textOfBytes fuel rest
      | some (left, low, high, bits) =>
        let (c, rest) := followBytes left low high bits rest
        c :: textOfBytes fuel rest

/-- The bytes of a text with percent signs: an encoded byte is itself, and a character is its bytes in UTF-8. -/
def percentBytes : List Char → Bytes
  | [] => []
  | '%' :: a :: b :: rest =>
    match Uuid.hexValue? a, Uuid.hexValue? b with
    | some m, some n => UInt8.ofNat (16 * m + n) :: percentBytes rest
    | _, _ => 37 :: percentBytes (a :: b :: rest)
  | c :: rest => String.utf8EncodeChar c ++ percentBytes rest

/-- The text that an encoded text stands for. -/
def percentDecode (s : String) : String :=
  let bytes := percentBytes s.toList
  String.ofList (textOfBytes bytes.length bytes)

/-! ## Paths -/

/-- The characters that end the path of an address, or that some take for a slash. -/
def endsPath (c : Char) : Bool := c == '?' || c == '#' || c == '\\'

/-- A decoded path as a part of an address: with the characters that would end it encoded. -/
def pathInAddress (path : String) : String :=
  String.ofList (path.toList.flatMap fun c => if endsPath c then percentChar c else [c])

/-- A decoded path as an answer shows it: a part of an address that begins with a slash and has no line ends and
tabs. -/
def shownPath (path : String) : String :=
  let cs := path.toList.filter fun c => c != '\n' && c != '\r' && c != '\t'
  let cs := if path.toList.head? = some '/' then cs else '/' :: cs
  pathInAddress (String.ofList cs)

end RaceAlbum
