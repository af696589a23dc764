import RaceAlbum.Picture.Basic

/-!
# Pictures of fields

A picture of fields is a list of named fields, each padded to an even length, inside a field of its own. The first one
tells what the others may hold and the size of the picture; among them are one frame of that size and the tags.
-/

namespace RaceAlbum.Picture

/-- A named field: its name and its content. -/
structure Field where
  name : Bytes
  content : Bytes

/-- A number with the lowest byte first. -/
def lowNumber (bs : Bytes) : Nat := Bytes.number .little bs

/-- The longest content of a field. -/
def contentMax : Nat := 0xFFFFFFFF - 8 - 1

/-- Reads the field that comes first, with its padding. -/
def field? (bs : Bytes) : Option (Field × Bytes) := do
  let (name, rest) ← Bytes.splitExactly? 4 bs
  let (length, rest) ← Bytes.splitExactly? 4 rest
  let length := lowNumber length
  if contentMax < length then none
  else do
    let (content, rest) ← Bytes.splitExactly? (length + length % 2) rest
    return (⟨name, content.take length⟩, rest)

/-- Reads fields up to the end. -/
def fields? : (fuel : Nat) → Bytes → Option (List Field)
  | _, [] => some []
  | 0, _ => none
  | fuel + 1, bs => do
    let (f, rest) ← field? bs
    let fs ← fields? fuel rest
    return f :: fs

/-- The name of the field with the size of the picture. -/
def canvasName : Bytes := Bytes.ofText "VP8X"

/-- The name of the field with the tags. -/
def tagsName : Bytes := Bytes.ofText "EXIF"

/-- The names of the fields of a frame: one with losses, one without, and the opacity of the former. -/
def lossyName : Bytes := Bytes.ofText "VP8 "

/-- The name of a frame without losses. -/
def losslessName : Bytes := Bytes.ofText "VP8L"

/-- The name of the opacity of a frame with losses. -/
def opacityName : Bytes := Bytes.ofText "ALPH"

/-- The names of fields of which a picture has several, one for each part. -/
def partNames : List Bytes := [Bytes.ofText "ANIM", Bytes.ofText "ANMF"]

/-- The size of a frame with losses, which must be a whole picture that is shown. -/
def lossySize? (s : Bytes) : Option (Nat × Nat) :=
  let head := lowNumber (s.take 3)
  let side (start : Nat) : Nat := lowNumber ((s.drop start).take 2) % 0x4000
  if 10 ≤ s.length && (s.drop 3).take 3 == [0x9D, 0x01, 0x2A] && head % 2 == 0 && head / 2 % 8 ≤ 3 &&
      head / 16 % 2 == 1 && head / 32 < s.length && side 6 != 0 && side 8 != 0 then
    some (side 6, side 8)
  else none

/-- The size of a frame without losses. -/
def losslessSize? (s : Bytes) : Option (Nat × Nat) :=
  let head := lowNumber ((s.drop 1).take 4)
  if 5 ≤ s.length && s.headD 0 == 0x2F && head / 0x20000000 == 0 then
    some (head % 0x4000 + 1, head / 0x4000 % 0x4000 + 1)
  else none

/-- The size of the one frame among fields: a frame without losses, or one with losses that its opacity may precede. -/
def frameOf? : List Field → Option (Nat × Nat)
  | [] => none
  | f :: fs =>
    let isFrame (f : Field) : Bool := f.name == lossyName || f.name == losslessName || f.name == opacityName
    if f.name = opacityName then
      match fs with
      | g :: fs => if g.name = lossyName && !fs.any isFrame then lossySize? g.content else none
      | [] => none
    else if f.name = lossyName then (if fs.any isFrame then none else lossySize? f.content)
    else if f.name = losslessName then (if fs.any isFrame then none else losslessSize? f.content)
    else frameOf? fs

/-- The flag for tags among those of the canvas. -/
def tagsFlag : Nat := 0x08

/-- The flag for a picture that moves. -/
def movesFlag : Nat := 0x02

/-- All flags of the canvas that have a meaning. -/
def flagsMax : Nat := 0x3E

/-- The canvas: its flags and its size. -/
def canvas? (s : Bytes) : Option (Nat × Nat × Nat) :=
  let flags := (s.headD 0).toNat
  let side (start : Nat) : Nat := lowNumber ((s.drop start).take 3) + 1
  if 10 ≤ s.length && flags ||| flagsMax == flagsMax && side 4 * side 7 < 0x100000000 then some (flags, side 4, side 7)
  else none

/-- The names with which a picture of fields begins. -/
def riffMark : Bytes := Bytes.ofText "RIFF"

/-- The name of the form of a picture of fields. -/
def riffForm : Bytes := Bytes.ofText "WEBP"

/-- Where the tags about a picture of fields stand. A picture that moves is not looked into. -/
def ofFields? (bs : Bytes) : Option TagSource := do
  let (length, rest) ← Bytes.splitExactly? 4 (bs.drop riffMark.length)
  let length := lowNumber length
  let (content, _) ← if length ≤ contentMax then Bytes.splitExactly? length rest else none
  let (_, content) ← Bytes.splitExactly? riffForm.length content
  let (first, rest) ← field? content
  let (flags, width, height) ← if first.name = canvasName then canvas? first.content else none
  let fields ← fields? rest.length rest
  let size ← frameOf? fields
  let unknown := flags &&& movesFlag != 0 || fields.any (fun f => f.name = canvasName || partNames.contains f.name)
  let tags ← fields.find? fun f => f.name = tagsName
  if size = (width, height) && isSize width height && !unknown && flags &&& tagsFlag != 0 then
    some (.block false tags.content)
  else none

end RaceAlbum.Picture
