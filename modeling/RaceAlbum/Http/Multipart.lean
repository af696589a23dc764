import RaceAlbum.Http.HeaderOptions
import RaceAlbum.Http.Percent

/-!
# Forms in parts

A form with files is a row of parts with a boundary between them. Each part has headers, which name it and perhaps its
file, and then its data up to the next boundary. `Multipart.read` gives the parts of a body; a part that breaks off
before its boundary is none. `Multipart.write` is the other direction.
-/

namespace RaceAlbum

/-- A file in a form. Its type is what the form says, if it says anything. -/
structure FormFile where
  filename : String
  contentType : Option String
  data : Bytes
deriving DecidableEq

/-- A part of a form: a text or a file, under a name. -/
inductive FormPart where
  | field (name value : String)
  | file (name : String) (file : FormFile)
deriving DecidableEq

/-- The name of a part. -/
def FormPart.name : FormPart → String
  | field name _ => name
  | file name _ => name

/-- Why a body is no form in parts. -/
inductive FormFault where
  | noBoundary
  | unreadable
  | noName
  | tooManyFiles
  | tooManyFields
  | textTooLong
deriving DecidableEq

namespace Multipart

/-- The most files, and the most texts, of a form. -/
def partsMax : Nat := 1000

/-- The most bytes of a text. -/
def textMax : Nat := 1024 * 1024

end Multipart

/-- A fault of a form in words. -/
def FormFault.words : FormFault → String
  | noBoundary => "Missing boundary in multipart."
  | unreadable => "Invalid multipart data."
  | noName => "The Content-Disposition header field \"name\" must be provided."
  | tooManyFiles => "Too many files. Maximum number of files is 1000."
  | tooManyFields => "Too many fields. Maximum number of fields is 1000."
  | textTooLong => "Part exceeded maximum size of 1024KB."

namespace Multipart

/-- The bytes of an ASCII text. -/
def ascii (s : String) : Bytes := Bytes.ofText s

/-- The end of a line. -/
def lineEnd : Bytes := [13, 10]

/-- The hyphen. -/
def hyphen : UInt8 := 45

/-! ## Reading -/

/-- What comes of reading a piece of a form: the piece and the rest, or the form breaks off, or it is malformed. -/
inductive Piece (α : Type) where
  | read (a : α) (rest : Bytes)
  | brokenOff
  | fault (f : FormFault)

/-- Reads bytes that must come next. -/
def expect : Bytes → Bytes → Piece Unit
  | [], bs => .read () bs
  | _ :: _, [] => .brokenOff
  | e :: es, b :: bs => if e = b then expect es bs else .fault .unreadable

/-- Whether a byte may stand in the name of a header. -/
def isToken (b : UInt8) : Bool :=
  let c := Char.ofNat b.toNat
  c.isAlphanum || "!#$%&'*+-.^_|~".toList.contains c || c.toNat == 0x60

/-- A header of a part: its name in small letters, and its value. -/
abbrev PartHeader := List Char × Bytes

/-- Reads the line of a header, whose end is to come. -/
def headerLine (bs : Bytes) : Piece PartHeader :=
  let (name, rest) := bs.span isToken
  match rest with
  | [] => .brokenOff
  | 58 :: rest =>
    if name.isEmpty then .fault .unreadable
    else
      let (value, rest) := (rest.dropWhile (· == 32)).span (· != 13)
      if rest.isEmpty then .brokenOff else .read (HeaderOptions.small (Bytes.latin name), value) rest
  | _ => .fault .unreadable

/-- Reads the headers of a part up to the empty line after them. -/
def headers : (fuel : Nat) → (read : List PartHeader) → Bytes → Piece (List PartHeader)
  | 0, _, _ => .brokenOff
  | _, _, [] => .brokenOff
  | fuel + 1, read, b :: bs =>
    if b = 13 then
      match expect [10] bs with
      | .read () rest => .read read.reverse rest
      | .brokenOff => .brokenOff
      | .fault f => .fault f
    else
      match headerLine (b :: bs) with
      | .read h rest =>
        match expect lineEnd rest with
        | .read () rest => headers fuel (h :: read) rest
        | .brokenOff => .brokenOff
        | .fault f => .fault f
      | .brokenOff => .brokenOff
      | .fault f => .fault f

/-- Reads the data of a part up to the boundary, and whether another part follows it. -/
def dataUpTo (mark : Bytes) (read : Bytes) : Bytes → Piece (Bytes × Bool)
  | [] => .brokenOff
  | b :: bs =>
    if mark.isPrefixOf (b :: bs) then
      match (b :: bs).drop mark.length with
      | 13 :: 10 :: rest => .read (read.reverse, true) rest
      | 45 :: 45 :: rest => .read (read.reverse, false) rest
      | _ => dataUpTo mark (b :: read) bs
    else dataUpTo mark (b :: read) bs

/-- A text of bytes: in UTF-8 if they are, unless the form says otherwise; else a character for each byte. -/
def decodeText (narrow : Bool) (bs : Bytes) : String :=
  if narrow then String.ofList (Bytes.latin bs)
  else (String.fromUTF8? ⟨bs.toArray⟩).getD (String.ofList (Bytes.latin bs))

/-- The bytes that characters stand for. -/
def bytesOf (cs : List Char) : Bytes := cs.map fun c => UInt8.ofNat c.toNat

/-- The last part of a path whose steps are parted by backslashes. -/
def afterBackslash (cs : List Char) : List Char := (cs.reverse.takeWhile (· != '\\')).reverse

/-- Whether a name begins like a path on a drive or on another machine. -/
def isForeignPath (cs : List Char) : Bool := (cs.drop 1).take 2 == [':', '\\'] || cs.take 2 == ['\\', '\\']

/-- A name of a file; of a path on a drive or on another machine only the last step is left. -/
def lastStep (cs : List Char) : List Char := if isForeignPath cs then afterBackslash cs else cs

/-- A header of a part by its name. -/
def header? (hs : List PartHeader) (name : String) : Option Bytes := List.lookup name.toList hs

/-- What the headers of a part make of its data. -/
def partOf? (narrow : Bool) (hs : List PartHeader) : Option (Bytes → FormPart) :=
  let disposition := HeaderOptions.ofHeader (Bytes.latin ((header? hs.reverse "content-disposition").getD []))
  (disposition.option? "name").map fun name =>
    let name := decodeText narrow (bytesOf name)
    match disposition.option? "filename" with
    | none => fun data => .field name (decodeText narrow data)
    | some filename => fun data => .file name
      ⟨decodeText narrow (bytesOf (lastStep filename)),
       (header? hs "content-type").map fun value => String.ofList (Bytes.latin value), data⟩

/-- Whether a part is a file. -/
def isFile : FormPart → Bool
  | .file .. => true
  | .field .. => false

/-- What is wrong with one part more, after those already read, the last one first. -/
def fault? (read : List FormPart) (part : Bytes → FormPart) (data : Bytes) : Option FormFault :=
  let file := isFile (part data)
  if (read.filter fun p => isFile p == file).length < partsMax then
    if !file && textMax < data.length then some .textTooLong else none
  else some (if file then .tooManyFiles else .tooManyFields)

/-- Reads parts after a boundary, after those already read, the last one first. -/
def parts (narrow : Bool) (mark : Bytes) : (fuel : Nat) → (read : List FormPart) → Bytes →
    Except FormFault (List FormPart)
  | 0, read, _ => .ok read.reverse
  | fuel + 1, read, bs =>
    match headers bs.length [] bs with
    | .brokenOff => .ok read.reverse
    | .fault f => .error f
    | .read hs rest =>
      match partOf? narrow hs with
      | none => .error .noName
      | some part =>
        match fault? read part [] with
        | some f => .error f
        | none =>
          match dataUpTo mark [] rest with
          | .brokenOff => .ok read.reverse
          | .fault f => .error f
          | .read (data, more) rest =>
            match fault? read part data with
            | some f => .error f
            | none => if more then parts narrow mark fuel (part data :: read) rest
              else .ok (part data :: read).reverse

/-- Whether a set of characters has a character for each byte. -/
def isNarrow (charset : Option (List Char)) : Bool :=
  match charset with
  | none => false
  | some name => ["utf-8".toList, "utf8".toList, "utf_8".toList].all (· != HeaderOptions.small name)

/-- Reads the parts of a form with a boundary. -/
def readParts (narrow : Bool) (boundary body : Bytes) : Except FormFault (List FormPart) :=
  let start := body.dropWhile fun b => b == 13 || b == 10
  match expect (hyphen :: hyphen :: boundary) start with
  | .brokenOff => .ok []
  | .fault f => .error f
  | .read () [] => .ok []
  | .read () (b :: rest) =>
    match expect (if b = hyphen then [hyphen] else lineEnd) (if b = hyphen then rest else b :: rest) with
    | .brokenOff => .ok []
    | .fault f => .error f
    | .read () rest =>
      if b = hyphen then .ok []
      else parts narrow (lineEnd ++ hyphen :: hyphen :: boundary) body.length [] rest

/-- Reads the parts of a form whose type has a boundary among its options. -/
def read (type : HeaderOptions) (body : Bytes) : Except FormFault (List FormPart) :=
  match type.option? "boundary" with
  | none => .error .noBoundary
  | some boundary => readParts (isNarrow (type.option? "charset")) (bytesOf boundary) body

/-! ## Writing -/

/-- A character inside the quotes of a name: a quote and most controls are percent-encoded, and a backslash is written
twice. -/
def escapeName (c : Char) : List Char :=
  if c = '\\' then ['\\', '\\']
  else if c = '"' ∨ (c.toNat < 0x20 ∧ c ≠ '\x1b') then percentChar c
  else [c]

/-- An option of a header with its value between quotes. -/
def writeOption (name value : String) : String :=
  "; " ++ name ++ "=\"" ++ String.ofList (value.toList.flatMap escapeName) ++ "\""

/-- The headers of a part. A file that has no name is written as a text that has a type. -/
def writeHeaders : FormPart → String
  | .field name _ => "Content-Disposition: form-data" ++ writeOption "name" name ++ "\r\n"
  | .file name f => "Content-Disposition: form-data" ++ writeOption "name" name ++
      (if f.filename = "" then "" else writeOption "filename" f.filename) ++ "\r\n" ++
      match f.contentType with
      | none => ""
      | some type => "Content-Type: " ++ type ++ "\r\n"

/-- The data of a part. -/
def dataOf : FormPart → Bytes
  | .field _ value => Bytes.ofText value
  | .file _ f => f.data

/-- A body of parts with a boundary. -/
def write (boundary : String) (parts : List FormPart) : Bytes :=
  parts.flatMap (fun p => ascii ("--" ++ boundary ++ "\r\n" ++ writeHeaders p ++ "\r\n") ++ dataOf p ++ lineEnd) ++
    ascii ("--" ++ boundary ++ "--\r\n")

/-- The type of a body of parts with a boundary. -/
def typeOf (boundary : String) : String := "multipart/form-data; boundary=" ++ boundary

end Multipart

/-! ## Forms without files -/

/-- The text of a piece of a form of names and values. -/
def formText (cs : List Char) : String :=
  String.ofList (Bytes.latin (percentBytes (cs.map fun c => if c = '+' then ' ' else c)))

/-- The parts of a form of names and values with signs between them. -/
def fieldsOfForm (body : Bytes) : List FormPart :=
  (((Bytes.latin body).splitOn '&').filter fun piece => !piece.isEmpty).map fun piece =>
    let (name, value) := piece.span (· != '=')
    .field (formText name) (formText (value.drop 1))

end RaceAlbum
