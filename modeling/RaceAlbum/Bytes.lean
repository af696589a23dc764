/-!
# Bytes

The content of files, and numbers of several bytes in either order.
-/

namespace RaceAlbum

/-- The content of a file. -/
abbrev Bytes := List UInt8

/-- The number of bytes of a text in UTF-8. -/
def utf8Length (cs : List Char) : Nat := (String.ofList cs).utf8ByteSize

/-- The order of the bytes of a number. -/
inductive ByteOrder where
  | big
  | little
deriving DecidableEq

namespace Bytes

/-- A run of bytes as a number, the most significant byte first. -/
def bigNumber (bs : Bytes) : Nat := bs.foldl (fun n b => n * 256 + b.toNat) 0

/-- A run of bytes as a number. -/
def number (order : ByteOrder) (bs : Bytes) : Nat := match order with
  | .big => bigNumber bs
  | .little => bigNumber bs.reverse

/-- A number in a width of bytes, the most significant one first. -/
def ofBigNumber : (width : Nat) → Nat → Bytes
  | 0, _ => []
  | w + 1, n => ofBigNumber w (n / 256) ++ [UInt8.ofNat (n % 256)]

/-- A number in a width of bytes. -/
def ofNumber (order : ByteOrder) (width n : Nat) : Bytes := match order with
  | .big => ofBigNumber width n
  | .little => (ofBigNumber width n).reverse

/-- The first bytes and the rest, if there are as many. -/
def splitExactly? (n : Nat) (bs : Bytes) : Option (Bytes × Bytes) :=
  let front := bs.take n
  if front.length = n then some (front, bs.drop n) else none

/-- The bytes of a text in UTF-8. -/
def ofText (s : String) : Bytes := s.toUTF8.toList

/-- The characters of bytes, one for each. -/
def latin (bs : Bytes) : List Char := bs.map fun b => Char.ofNat b.toNat

end Bytes

end RaceAlbum
