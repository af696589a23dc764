import RaceAlbum.Exif.Directory

/-!
# Sizes of pictures, and what they hold about themselves

A picture that has no size, or that claims more points than are accepted, is no picture. The tags about a picture stand
in a block inside it, or the file of the picture is itself such a block.
-/

namespace RaceAlbum.Picture

/-- The mark that may stand in front of a block of tags. -/
def blockMark : Bytes := Bytes.ofText "Exif" ++ [0, 0]

/-- The most points of a picture. -/
def pointsMax : Nat := 178956970

/-- Whether the size of a picture is accepted. -/
def isSize (width height : Nat) : Bool := 0 < width && 0 < height && width * height ≤ pointsMax

/-- Where the tags about a picture stand: in a block, whose head may be of no use where the picture is lenient, or in
the file itself. -/
inductive TagSource where
  | block (lenient : Bool) (bs : Bytes)
  | file (b : TagBlock)

/-- A block without its mark. -/
def unmarked (bs : Bytes) : Bytes := if blockMark.isPrefixOf bs then bs.drop blockMark.length else bs

/-- The tags of a picture. An empty block has none. -/
def TagSource.tags? : TagSource → Except PictureFault (Option TagBlock)
  | block lenient bs =>
    let bs := unmarked bs
    if bs.isEmpty then .ok none
    else match TagBlock.ofBytes bs with
      | .ok b => .ok (some b)
      | .error f => if lenient then .ok none else .error f
  | file b => .ok (some b)

end RaceAlbum.Picture
