import RaceAlbum.Exif.CaptureTime
import RaceAlbum.Exif.Directory
import RaceAlbum.Failure
import RaceAlbum.Picture.Chunks
import RaceAlbum.Picture.Riff
import RaceAlbum.Picture.Segments
import RaceAlbum.Picture.Tagged

/-!
# The capture time of a picture

A picture may tell when it was taken: in the directory of the camera, or else in its first directory. What cannot be
read tells nothing; only a picture whose block of tags breaks its form, or leads to a place that no file has, is a
failure.
-/

namespace RaceAlbum.Exif

/-- Where the tags about a picture stand, as its first bytes tell. -/
def source? (bs : Bytes) : Except PictureFault (Option Picture.TagSource) :=
  if Picture.segmentsMark.isPrefixOf bs then .ok (Picture.ofSegments? bs)
  else if Picture.chunksMark.isPrefixOf bs then Picture.ofChunks? bs
  else if Picture.riffMark.isPrefixOf bs && Picture.riffForm.isPrefixOf (bs.drop 8) then .ok (Picture.ofFields? bs)
  else .ok (Picture.Tagged.source? bs)

/-- The tags about a picture. -/
def tags? (bs : Bytes) : Except PictureFault (Option TagBlock) := do
  match ← source? bs with
  | some source => source.tags?
  | none => return none

/-- The tag with the moment of the file. -/
def fileTimeTag : Nat := 306

/-- The tag with the place of the camera's directory. -/
def cameraTag : Nat := 0x8769

/-- The tag with the moment at which the picture was taken. -/
def captureTag : Nat := 36867

/-- The tags of the camera's directory, which are none where no place is told; a place before the block makes all tags
unreadable. -/
def cameraTags? (b : TagBlock) (first : List Tag) : Except Failure (Option (List Tag)) :=
  match (TagBlock.tag? first cameraTag).bind b.integers? with
  | some (place :: _) =>
    if place < 0 then .ok none
    else if (twoPow 63 : Int) ≤ place then .error (.misfit .tooLargeForPlace)
    else .ok (some (b.directory place.toNat))
  | _ => .ok (some [])

/-- The tag that tells when the picture was taken: that of the camera where it is given, else that of the file. -/
def timeTag? (b : TagBlock) : Except Failure (Option Tag) := do
  let first := b.directory b.first
  match ← cameraTags? b first with
  | none => return none
  | some camera =>
    match TagBlock.tag? camera captureTag with
    | some t => return if b.isGiven t then some t else TagBlock.tag? first fileTimeTag
    | none => return TagBlock.tag? first fileTimeTag

/-- The moment that a tag tells. -/
def momentOf? (t : Tag) : Option Moment := do
  let text ← TagBlock.text? t
  CaptureTime.read? (Bytes.latin text)

/-- The moment in universal time at which a picture was taken, as far as it tells. -/
def capturedAt? (bs : Bytes) : Except Failure (Option Moment) := do
  match ← (tags? bs).mapError .picture with
  | none => return none
  | some b => return (← timeTag? b).bind momentOf?

end RaceAlbum.Exif
