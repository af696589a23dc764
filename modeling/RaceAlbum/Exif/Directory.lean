import RaceAlbum.Number.Power
import RaceAlbum.Picture.Fault

/-!
# Directories of tags

The data about a picture are a block with a byte order and directories of tags. A tag has a type, a count and values,
which stand in its entry where they fit and elsewhere in the block otherwise. A block that breaks off keeps the tags
that could be read before.
-/

namespace RaceAlbum

/-- A tag that was read: its number, its type and the bytes of its values. -/
structure Tag where
  number : Nat
  type : Nat
  data : Bytes
deriving DecidableEq

/-- A block of directories: the byte order, whether places are wide, the place of its first directory, and all its
bytes. -/
structure TagBlock where
  order : ByteOrder
  wide : Bool
  first : Nat
  bytes : Bytes

namespace TagBlock

/-- The marks with which a block may begin, and the byte order that they tell. -/
def marks : List (Bytes × ByteOrder) :=
  [([0x4D, 0x4D, 0x00, 0x2A], .big), ([0x49, 0x49, 0x2A, 0x00], .little), ([0x4D, 0x4D, 0x2A, 0x00], .big),
   ([0x49, 0x49, 0x00, 0x2A], .little), ([0x4D, 0x4D, 0x00, 0x2B], .big), ([0x49, 0x49, 0x2B, 0x00], .little)]

/-- The mark of a block with wide places. -/
def wideMark : Bytes := [0x49, 0x49, 0x2B, 0x00]

/-- Reads the head of a block, of which so many bytes are there at most: its mark, and the place of its first directory
up to the end of the head. -/
def ofHead (bs head : Bytes) : Except PictureFault TagBlock :=
  match List.lookup (head.take 4) marks with
  | none => .error (.notATagBlock head)
  | some order =>
    let wide := head.take 4 == wideMark
    let width := if wide then 8 else 4
    match Bytes.splitExactly? width (head.drop width) with
    | some (place, _) => .ok ⟨order, wide, Bytes.number order place, bs⟩
    | none => .error (.shortNumbers width)

/-- The bytes of the head of a block inside a picture; wide places have no room in it. -/
def headSize : Nat := 8

/-- Reads the head of a block inside a picture. -/
def ofBytes (bs : Bytes) : Except PictureFault TagBlock := ofHead bs (bs.take headSize)

/-- The number of bytes of one value of a type. -/
def unitSize? (type : Nat) : Option Nat :=
  if type = 1 ∨ type = 2 ∨ type = 6 ∨ type = 7 then some 1
  else if type = 3 ∨ type = 8 then some 2
  else if type = 4 ∨ type = 9 ∨ type = 11 ∨ type = 13 then some 4
  else if type = 5 ∨ type = 10 ∨ type = 12 ∨ type = 16 then some 8
  else none

/-- What an entry of a directory gives: a tag, nothing, or the end of reading. -/
inductive Entry where
  | tag (t : Tag)
  | nothing
  | broken

/-- The bytes of a place, and of the values that stand in an entry itself. -/
def placeSize (b : TagBlock) : Nat := if b.wide then 8 else 4

/-- The bytes of an entry: its number, its type, the count of its values, and a place. -/
def entrySize (b : TagBlock) : Nat := 4 + 2 * b.placeSize

/-- Reads the bytes of an entry. -/
def entry (b : TagBlock) (bs : Bytes) : Entry :=
  let field (start width : Nat) : Nat := Bytes.number b.order ((bs.drop start).take width)
  match unitSize? (field 2 2) with
  | none => .nothing
  | some unit =>
    let size := field 4 b.placeSize * unit
    if size = 0 then .nothing
    else if size ≤ b.placeSize then .tag ⟨field 0 2, field 2 2, (bs.drop (4 + b.placeSize)).take size⟩
    else match Bytes.splitExactly? size (b.bytes.drop (field (4 + b.placeSize) b.placeSize)) with
      | some (data, _) => .tag ⟨field 0 2, field 2 2, data⟩
      | none => .broken

/-- Reads a number of entries. -/
def entries (b : TagBlock) : (count : Nat) → Bytes → List Tag
  | 0, _ => []
  | n + 1, bs =>
    match Bytes.splitExactly? b.entrySize bs with
    | none => []
    | some (front, rest) =>
      match b.entry front with
      | .tag t => t :: entries b n rest
      | .nothing => entries b n rest
      | .broken => []

/-- The tags of the directory at a place. -/
def directory (b : TagBlock) (place : Nat) : List Tag :=
  match Bytes.splitExactly? (if b.wide then 8 else 2) (b.bytes.drop place) with
  | none => []
  | some (count, rest) => b.entries (Bytes.number b.order count) rest

/-- The tag of a number in a directory; of several the last one counts. -/
def tag? (tags : List Tag) (number : Nat) : Option Tag := tags.reverse.find? fun t => t.number == number

/-! ## Values -/

/-- The type of texts. -/
def textType : Nat := 2

/-- The types of bytes without a meaning of their own. -/
def plainTypes : List Nat := [1, 7]

/-- The types of whole numbers: whether they have a sign. -/
def integerTypes : List (Nat × Bool) :=
  [(3, false), (4, false), (13, false), (16, false), (6, true), (8, true), (9, true)]

/-- The types of fractions, of two whole numbers. -/
def fractionTypes : List Nat := [5, 10]

/-- The types of numbers with a fractional part, whose highest bit is their sign. -/
def floatTypes : List Nat := [11, 12]

/-- The text of a tag, without the one zero at its end. -/
def text? (t : Tag) : Option Bytes :=
  if t.type = textType then some (if t.data.getLast? = some 0 then t.data.dropLast else t.data) else none

/-- Bytes as a whole number, of which half stand for those below zero where it has a sign. -/
def integer (b : TagBlock) (signed : Bool) (bs : Bytes) : Int :=
  let n := Bytes.number b.order bs
  if signed && twoPow (8 * bs.length - 1) ≤ n then (n : Int) - twoPow (8 * bs.length) else n

/-- The whole numbers in bytes, each of a width. -/
def integersOf (b : TagBlock) (signed : Bool) (width : Nat) : (fuel : Nat) → Bytes → List Int
  | 0, _ => []
  | fuel + 1, bs =>
    match Bytes.splitExactly? width bs with
    | some (front, rest) => b.integer signed front :: integersOf b signed width fuel rest
    | none => []

/-- The whole numbers of a tag. -/
def integers? (b : TagBlock) (t : Tag) : Option (List Int) := do
  let signed ← List.lookup t.type integerTypes
  let unit ← unitSize? t.type
  return b.integersOf signed unit t.data.length t.data

/-- Whether a tag counts as given: a text that is not empty, and any other value unless it is one zero. -/
def isGiven (b : TagBlock) (t : Tag) : Bool :=
  match text? t with
  | some s => !s.isEmpty
  | none =>
    if plainTypes.contains t.type || (unitSize? t.type).any (fun unit => t.data.length != unit) then true
    else if fractionTypes.contains t.type then (t.data.take 4).any (· != 0) || (t.data.drop 4).all (· == 0)
    else if floatTypes.contains t.type then
      Bytes.number b.order t.data % twoPow (8 * t.data.length - 1) != 0
    else t.data.any (· != 0)

end TagBlock

end RaceAlbum
