import RaceAlbum.Picture.Basic

/-!
# Pictures of segments

A picture of segments begins with marked segments: the tags about it, its resolution, its colours, the tables for its
points and the frame with its size. It is no picture where a segment breaks off or breaks its own form.
-/

namespace RaceAlbum.Picture

/-- What the segments before the points tell: the size of the frame, the block of tags, the pieces of a profile of
colours, and whether the resolution is known. -/
structure Segments where
  size : Option (Nat × Nat)
  block : Option Bytes
  pieces : List Bytes
  resolved : Bool

namespace Segments

/-- Nothing was told yet. -/
def empty : Segments := ⟨none, none, [], false⟩

/-- Reads the segment of a length that comes first: its content and the rest. -/
def segment? (bs : Bytes) : Option (Bytes × Bytes) := do
  let (length, rest) ← Bytes.splitExactly? 2 bs
  Bytes.splitExactly? (Bytes.bigNumber length - 2) rest

/-- The markers of frames. -/
def isFrameMarker (m : Nat) : Bool :=
  (0xC0 ≤ m && m ≤ 0xCF && m != 0xC4 && m != 0xC8 && m != 0xCC) || m == 0xDE

/-- The markers that stand alone. -/
def isLoneMarker (m : Nat) : Bool := m == 0xC8 || (0xD0 ≤ m && m ≤ 0xD9) || (0xF0 ≤ m && m ≤ 0xFD)

/-- The markers of segments that are skipped, apart from what some of them tell. -/
def isSkippedMarker (m : Nat) : Bool :=
  m == 0xC4 || m == 0xCC || m == 0xDC || m == 0xDD || m == 0xDF || m == 0xFE || (0xE0 ≤ m && m ≤ 0xEF)

/-- The numbers of colour layers that a frame may have. -/
def layerCounts : List Nat := [1, 3, 4]

/-- The size that the segment of a frame tells, if the frame is of accepted form: samples of eight bits, one, three or
four layers, and three bytes for each layer that it describes. -/
def frameSize? (s : Bytes) : Option (Nat × Nat) :=
  match s with
  | depth :: h1 :: h0 :: w1 :: w0 :: layers :: rest =>
    if depth = 8 && layerCounts.contains layers.toNat && rest.length % 3 == 0 then
      some (Bytes.bigNumber [w1, w0], Bytes.bigNumber [h1, h0])
    else none
  | _ => none

/-- Whether the tables of a segment are whole. -/
def tablesAreWhole : (fuel : Nat) → Bytes → Bool
  | _, [] => true
  | 0, _ => false
  | fuel + 1, v :: rest =>
    match Bytes.splitExactly? (if v.toNat / 16 = 0 then 64 else 128) rest with
    | some (_, rest) => tablesAreWhole fuel rest
    | none => false

/-- Joins a block of tags to what came before: a further piece stands without its mark. -/
def joinBlock (before : Option Bytes) (s : Bytes) : Option Bytes :=
  match before with
  | none => some s
  | some b => some (b ++ s.drop blockMark.length)

/-- The mark of the piece of a profile of colours. -/
def pieceMark : Bytes := Bytes.ofText "ICC_PROFILE" ++ [0]

/-- The bytes of a piece before its share of the profile: its mark, its number, and how many there are. -/
def pieceHead : Nat := 14

/-- The first of two pieces. -/
def firstPiece (a b : Bytes) : Bytes := if a ≤ b then a else b

/-- Whether the first of the pieces says how many there are. -/
def piecesAreCounted : List Bytes → Bool
  | [] => true
  | s :: ss => pieceHead ≤ (ss.foldl firstPiece s).length

/-- The mark of a list of resources, and that of each of them. -/
def resourcesMark : Bytes := Bytes.ofText "Photoshop 3.0" ++ [0]

/-- The mark of a resource. -/
def resourceMark : Bytes := Bytes.ofText "8BIM"

/-- The resource with a resolution, and the bytes of it that count. -/
def resolutionResource : Nat := 0x3ED

/-- A number at the next even place. -/
def even (n : Nat) : Nat := n + n % 2

/-- Whether the name of every resource has a length. Resources that break off elsewhere are passed over. -/
def resourcesAreNamed (s : Bytes) : (fuel place : Nat) → Bool
  | 0, _ => true
  | fuel + 1, place =>
    if (s.drop place).take 4 != resourceMark then true
    else if s.length < place + 6 then true
    else match s[place + 6]? with
      | none => false
      | some name =>
        let start := even (place + 7 + name.toNat)
        match Bytes.splitExactly? 4 (s.drop start) with
        | none => true
        | some (size, rest) =>
          let code := Bytes.bigNumber ((s.drop (place + 4)).take 2)
          let size := Bytes.bigNumber size
          if code = resolutionResource && (rest.take size).length < 14 then true
          else resourcesAreNamed s fuel (even (start + 4 + size))

/-- The mark of the segment with a resolution. -/
def resolutionMark : Bytes := Bytes.ofText "JFIF"

/-- The units in which a resolution may be given. -/
def resolutionUnits : List Nat := [1, 2]

/-- Whether a segment gives the resolution in a unit. -/
def givesResolution (s : Bytes) : Bool := 12 ≤ s.length && resolutionUnits.contains ((s.getD 7 0).toNat)

/-- The mark of the segment about the transformation of colours. -/
def transformMark : Bytes := Bytes.ofText "Adobe"

/-- The bytes of a mark and of the version after it. -/
def versionEnd : Nat := 7

/-- What is told with a segment, if its form is accepted. -/
def told? (m : Nat) (s : Bytes) (found : Segments) : Option Segments :=
  if isFrameMarker m then do
    let size ← frameSize? s
    if piecesAreCounted found.pieces then some { found with size := some size, pieces := [] } else none
  else if m = 0xDB then (if tablesAreWhole s.length s then some found else none)
  else if m = 0xE1 && blockMark.isPrefixOf s then some { found with block := joinBlock found.block s }
  else if m = 0xE0 && resolutionMark.isPrefixOf s then
    if s.length < versionEnd then none
    else some { found with resolved := found.resolved || givesResolution s }
  else if m = 0xE2 && pieceMark.isPrefixOf s then some { found with pieces := s :: found.pieces }
  else if m = 0xED && resourcesMark.isPrefixOf s then
    if resourcesAreNamed s s.length resourcesMark.length then some found else none
  else if m = 0xEE && transformMark.isPrefixOf s then (if s.length < versionEnd then none else some found)
  else if isSkippedMarker m then some found
  else none

/-- Walks the segments up to the one with which the points begin; `pending` is the byte that was read last. -/
def walk : (fuel : Nat) → (pending : UInt8) → Bytes → Segments → Option Segments
  | 0, _, _, _ => none
  | _, _, [], _ => none
  | fuel + 1, pending, b :: rest, found =>
    if pending ≠ 0xFF then walk fuel b rest found
    else
      let m := b.toNat
      if isLoneMarker m || m = 0 then
        match rest with
        | [] => none
        | c :: rest => walk fuel c rest found
      else if m = 0xFF then walk fuel 0xFF rest found
      else match segment? rest with
        | none => none
        | some (s, after) =>
          if m = 0xDA then some found
          else match told? m s found, after with
            | some found, c :: after => walk fuel c after found
            | _, _ => none

end Segments

/-- The tag with the unit of a resolution. -/
def unitTag : Nat := 0x128

/-- The tag with the resolution along a row. -/
def resolutionTag : Nat := 0x11A

/-- Whether a resolution that stands as a text or as bytes has a second part, which is looked for where the first part
is a number. -/
def hasSecondPart (t : Tag) : Bool :=
  match TagBlock.text? t with
  | some [] => false
  | some [c] => !(0x30 ≤ c && c ≤ 0x39)
  | some _ => true
  | none => !(TagBlock.plainTypes.contains t.type && t.data.length == 1)

/-- Whether the resolution can be looked for among the tags. -/
def isResolvable (bs : Bytes) : Bool :=
  match (TagSource.block true bs).tags? with
  | .ok (some b) =>
    let tags := b.directory b.first
    (TagBlock.tag? tags unitTag).isNone || (TagBlock.tag? tags resolutionTag).all hasSecondPart
  | _ => true

/-- The three bytes with which a picture of segments begins. -/
def segmentsMark : Bytes := [0xFF, 0xD8, 0xFF]

/-- Where the tags about a picture of segments stand. A picture that does not tell its resolution elsewhere has it
looked for among its tags; their head is then no longer reported. -/
def ofSegments? (bs : Bytes) : Option TagSource := do
  let found ← Segments.walk bs.length 0xFF (bs.drop segmentsMark.length) .empty
  let (width, height) ← found.size
  let block ← found.block
  if isSize width height && (found.resolved || isResolvable block) then some (.block (!found.resolved) block) else none

end RaceAlbum.Picture
