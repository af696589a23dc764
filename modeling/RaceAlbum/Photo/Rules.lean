import RaceAlbum.Program
import RaceAlbum.Text.Blank

/-!
# The rules of photos

How a photo comes to be and how it is marked when it was classified or could not be.
-/

namespace RaceAlbum

/-- A file that is to become a photo. -/
structure NewPhoto where
  eventId : Uuid
  filename : String
  storageKey : String
  fileSize : Int
  mimeType : String
  width : Option Int
  height : Option Int
  capturedAt : Option Stamp
deriving DecidableEq

/-- Whether a text holds more than blanks. -/
def holdsText (s : String) : Bool := s.toList.any fun c => !isBlankOrSeparator c

namespace Photo

/-- The rule that a new photo breaks first. -/
def brokenRule? (p : NewPhoto) : Option Rule :=
  if !holdsText p.filename then some .filenameEmpty
  else if !acceptedMimeTypes.contains p.mimeType then some .mimeType
  else if p.fileSize ≤ 0 then some .fileSize
  else none

/-- A new photo, pending. -/
def create (p : NewPhoto) : Program Photo :=
  match brokenRule? p with
  | some r => .failed (.ofRule r)
  | none => do
    let id ← Program.takeId
    let now ← Program.readClock
    return ⟨id, p.eventId, p.filename, p.storageKey, p.fileSize, p.mimeType, p.width, p.height, .pending, none,
      p.capturedAt, now, none⟩

/-- The photo, marked as classified. -/
def complete (p : Photo) : Program Photo := do
  let now ← Program.readClock
  return { p with status := .completed, unclassifiedReason := none, processedAt := some now }

/-- The photo, marked as one that could not be classified. -/
def fail (p : Photo) (reason : UnclassifiedReason) : Program Photo := do
  let now ← Program.readClock
  return { p with status := .failed, unclassifiedReason := some reason, processedAt := some now }

end Photo

end RaceAlbum
