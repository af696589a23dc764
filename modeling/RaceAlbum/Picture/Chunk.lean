import RaceAlbum.Picture.Basic
import RaceAlbum.Picture.Inflate

/-!
# Chunks

A chunk has a length, a name and content. Chunks tell the size of a picture, the form of its points, its parts where it
moves, and notes: texts, and the block of tags.
-/

namespace RaceAlbum.Picture

/-- Why a chunk is of no use: it cannot be read, of which no one hears, or it has a fault. -/
inductive ChunkFault where
  | unreadable
  | fault (f : PictureFault)

/-- The head of a chunk: its name and the length of its content. -/
structure ChunkHead where
  name : Bytes
  length : Nat

namespace ChunkHead

/-- The name as a text. -/
def title (h : ChunkHead) : String := String.ofList (Bytes.latin h.name)

/-- Whether a name consists of four letters, digits and underscores. -/
def isName (name : Bytes) : Bool := name.length == 4 && name.all fun b =>
  let c := Char.ofNat b.toNat
  c.isAlphanum || c == '_'

/-- Reads the head of the chunk that comes first. -/
def read (bs : Bytes) : Except ChunkFault (ChunkHead × Bytes) :=
  match Bytes.splitExactly? 4 bs with
  | none => .error .unreadable
  | some (length, rest) =>
    let name := rest.take 4
    if isName name then .ok (⟨name, Bytes.bigNumber length⟩, rest.drop 4) else .error (.fault (.brokenName name))

end ChunkHead

/-- A note about a picture. -/
inductive Note where
  | bytes (bs : Bytes)
  | text (cs : List Char)

/-- A part of the area of a picture. -/
structure Area where
  left : Nat
  top : Nat
  width : Nat
  height : Nat

/-- The forms of points: bits and kind of colour. -/
def pointForms : List (Nat × Nat) :=
  [(1, 0), (2, 0), (4, 0), (8, 0), (16, 0), (8, 2), (16, 2), (1, 3), (2, 3), (4, 3), (8, 3), (8, 4), (16, 4), (8, 6),
   (16, 6)]

/-- The kinds of colour and their numbers of layers. -/
def layersOfKind : List (Nat × Nat) := [(0, 1), (2, 3), (3, 1), (4, 2), (6, 4)]

/-- What chunks tell: the size of the picture, the form of its points, whether its rows are interlaced, the number of
the last part and how many there are, the area of the next part, whether there is a picture besides the parts, and the
notes, the last one first. -/
structure ChunkNotes where
  width : Nat
  height : Nat
  form : Option (Nat × Nat)
  interlaced : Bool
  part : Option Nat
  parts : Option Nat
  area : Option Area
  beside : Bool
  notes : List (List Char × Note)

namespace ChunkNotes

/-- Nothing was told yet. -/
def empty : ChunkNotes := ⟨0, 0, none, false, none, none, none, false, []⟩

/-- The note of a name. -/
def note? (n : ChunkNotes) (name : String) : Option Note := List.lookup name.toList n.notes

/-- Adds a note, which stands for those of the same name. -/
def noted (n : ChunkNotes) (name : List Char) (note : Note) : ChunkNotes := { n with notes := (name, note) :: n.notes }

/-- Whether the picture has several parts. -/
def moves (n : ChunkNotes) : Bool :=
  match n.parts with
  | some k => 1 < k + (if n.beside then 1 else 0)
  | none => false

/-- The name of the note with the block of tags. -/
def blockName : String := "exif"

/-- The name of the note with the block of tags in hexadecimal. -/
def profileName : String := "Raw profile type exif"

/-- The name of the note with a sheet about the picture. -/
def sheetName : String := "xmp"

/-- The name of a text that holds a sheet. -/
def sheetTextName : String := "XML:com.adobe.xmp"

/-- A number inside a chunk. -/
def number (s : Bytes) (width start : Nat) : Except ChunkFault Nat :=
  if s.length < start + width then .error (.fault (.shortNumber width start s.length))
  else .ok (Bytes.bigNumber ((s.drop start).take width))

/-- Content that must have so many bytes. -/
def atLeast (size : Nat) (s : Bytes) (n : ChunkNotes) : Except ChunkFault ChunkNotes :=
  if s.length < size then .error .unreadable else .ok n

/-- The most bytes that a text may have when it is unpacked. -/
def textMax : Nat := 1048576

/-- Unpacks a text: what breaks its form has none, and one that is too long makes the chunk unreadable. -/
def unpacked (s : Bytes) : Except ChunkFault (Option Bytes) :=
  let u := Inflate.unpack textMax s
  match u.ending with
  | .full => .error .unreadable
  | .broken => .ok none
  | _ => .ok (some u.data)

/-- Splits content at its first zero. -/
def splitZero? (s : Bytes) : Option (Bytes × Bytes) :=
  match s.span (· != 0) with
  | (front, _ :: rest) => some (front, rest)
  | _ => none

/-- The head of a picture. -/
def head (s : Bytes) (n : ChunkNotes) : Except ChunkFault ChunkNotes :=
  if s.length < 13 then .error .unreadable
  else if s.getD 11 0 != 0 then .error (.fault .unknownFilter)
  else
    let form := ((s.getD 8 0).toNat, (s.getD 9 0).toNat)
    .ok { n with
      width := Bytes.bigNumber (s.take 4), height := Bytes.bigNumber ((s.drop 4).take 4),
      form := if pointForms.contains form then some form else n.form
      interlaced := n.interlaced || s.getD 12 0 != 0 }

/-- The colour that is transparent: one number for points without colour, three for points with colours. -/
def transparency (s : Bytes) (n : ChunkNotes) : Except ChunkFault ChunkNotes :=
  match n.form with
  | some (_, 0) => do
    let _ ← number s 2 0
    return n
  | some (_, 2) => do
    let _ ← number s 2 0
    let _ ← number s 2 2
    let _ ← number s 2 4
    return n
  | _ => .ok n

/-- A profile of colours: a name, a zero, the zero of its packing, and packed bytes. -/
def profile (s : Bytes) (n : ChunkNotes) : Except ChunkFault ChunkNotes :=
  match ((splitZero? s).map (·.2)).getD s with
  | [] => .error (.fault .missingByte)
  | method :: packed =>
    if method != 0 then .error (.fault (.unknownPacking method.toNat "iCCP"))
    else do
      let _ ← unpacked packed
      return n

/-- A text as it is: a name and the text. The block of tags may stand as such a text, and remains bytes. -/
def plainText (s : Bytes) (n : ChunkNotes) : ChunkNotes :=
  let (name, text) := (splitZero? s).getD (s, [])
  if name.isEmpty then n
  else
    let name := Bytes.latin name
    n.noted name (if name = blockName.toList then .bytes text else .text (Bytes.latin text))

/-- A packed text: a name, and the packed text after the zero of its packing. -/
def packedText (s : Bytes) (n : ChunkNotes) : Except ChunkFault ChunkNotes :=
  let (name, text) := (splitZero? s).getD (s, [])
  let method := text.headD 0
  if method != 0 then .error (.fault (.unknownPacking method.toNat "zTXt"))
  else do
    let text ← unpacked (text.drop 1)
    return if name.isEmpty then n else n.noted (Bytes.latin name) (.text (Bytes.latin (text.getD [])))

/-- The text of bytes in UTF-8. -/
def utf8? (bs : Bytes) : Option (List Char) := (String.fromUTF8? ⟨bs.toArray⟩).map String.toList

/-- Adds a text in a language: a name, the language, the name in it, and the text. -/
def notedText (n : ChunkNotes) (name language title text : Bytes) : ChunkNotes :=
  let n := if Bytes.latin name = sheetTextName.toList then n.noted sheetName.toList (.bytes text) else n
  match utf8? language, utf8? title, utf8? text with
  | some _, some _, some text => n.noted (Bytes.latin name) (.text text)
  | _, _, _ => n

/-- A text in a language, packed or as it is. What breaks its form is passed over. -/
def languageText (s : Bytes) (n : ChunkNotes) : Except ChunkFault ChunkNotes :=
  match splitZero? s with
  | some (name, packed :: method :: rest) =>
    match splitZero? rest with
    | none => .ok n
    | some (language, rest) =>
      match splitZero? rest with
      | none => .ok n
      | some (title, text) =>
        if packed = 0 then .ok (n.notedText name language title text)
        else if method != 0 then .ok n
        else do
          match ← unpacked text with
          | some text => return n.notedText name language title text
          | none => return n
  | _ => .ok n

/-- The number of parts, if it is told once. -/
def countParts (s : Bytes) (n : ChunkNotes) : Except ChunkFault ChunkNotes :=
  if s.length < 8 then .error .unreadable
  else
    let k := Bytes.bigNumber (s.take 4)
    if n.parts.isSome then .ok { n with parts := none }
    else if k = 0 ∨ twoPow 31 < k then .ok n
    else .ok { n with parts := some k }

/-- Counts a part, which must follow the one before. -/
def countPart (k : Nat) (n : ChunkNotes) : Except ChunkFault ChunkNotes :=
  if k = 0 ∧ n.part = none ∨ k ≠ 0 ∧ n.part = some (k - 1) then .ok { n with part := some k }
  else .error (.fault .partsOutOfOrder)

/-- The area of the next part, which lies inside the picture. -/
def nextPart (s : Bytes) (n : ChunkNotes) : Except ChunkFault ChunkNotes :=
  let field (start : Nat) : Nat := Bytes.bigNumber ((s.drop start).take 4)
  if s.length < 26 then .error .unreadable
  else do
    let n ← n.countPart (field 0)
    let area : Area := ⟨field 12, field 16, field 4, field 8⟩
    if n.width < area.left + area.width ∨ n.height < area.top + area.height then .error (.fault .partOutside)
    else .ok { n with area := some area }

/-- What is told with a chunk of a name and its content. -/
def told (n : ChunkNotes) (title : String) (s : Bytes) : Except ChunkFault ChunkNotes :=
  match title with
  | "IHDR" => n.head s
  | "tRNS" => n.transparency s
  | "gAMA" => do
    let _ ← number s 4 0
    return n
  | "cHRM" => if s.length % 4 = 0 then .ok n else .error (.fault (.shortNumbers (s.length / 4 * 4)))
  | "sRGB" => atLeast 1 s n
  | "pHYs" => atLeast 9 s n
  | "iCCP" => n.profile s
  | "tEXt" => .ok (n.plainText s)
  | "zTXt" => n.packedText s
  | "iTXt" => n.languageText s
  | "eXIf" => .ok (n.noted blockName.toList (.bytes s))
  | "acTL" => n.countParts s
  | "fcTL" => n.nextPart s
  | _ => .ok n

end ChunkNotes

/-- What a chunk is: one that tells something, with its content and what follows it, one with points, of which so many
bytes follow, or the last one. -/
inductive ChunkStep where
  | told (n : ChunkNotes) (content rest : Bytes)
  | points (n : ChunkNotes) (length : Nat) (rest : Bytes)
  | last

/-- Reads the chunk after a head; the content of points remains to be read. -/
def chunkStep (n : ChunkNotes) (h : ChunkHead) (rest : Bytes) : Except ChunkFault ChunkStep :=
  let points (n : ChunkNotes) (length : Nat) (rest : Bytes) : ChunkStep :=
    .points { n with beside := n.beside || (n.parts.isSome && n.area.isNone) } length rest
  match h.title with
  | "IEND" => .ok .last
  | "IDAT" => .ok (points n h.length rest)
  | "fdAT" =>
    if h.length < 4 then .error .unreadable
    else match Bytes.splitExactly? 4 rest with
      | none => .error .unreadable
      | some (part, rest) =>
        let k := Bytes.bigNumber part
        if k ≠ 0 ∧ n.part = some (k - 1) then .ok (points { n with part := some k } (h.length - 4) rest)
        else .error (.fault .partsOutOfOrder)
  | title =>
    match Bytes.splitExactly? h.length rest with
    | none => .error .unreadable
    | some (content, rest) => do
      let n ← n.told title content
      return .told n content rest

end RaceAlbum.Picture
