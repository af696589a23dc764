import RaceAlbum.Calendar.Stamp
import RaceAlbum.Uuid

/-!
# Photos

A photo belongs to an event and names the stored object that holds its bytes. It is pending until its detections are
recorded.
-/

namespace RaceAlbum

/-- How far a photo is processed. -/
inductive PhotoStatus where
  | pending
  | detecting
  | analyzing
  | completed
  | failed
deriving DecidableEq

namespace PhotoStatus

/-- The name of a status. -/
def text : PhotoStatus → String
  | pending => "pending"
  | detecting => "detecting"
  | analyzing => "analyzing"
  | completed => "completed"
  | failed => "failed"

/-- All statuses. -/
def all : List PhotoStatus := [pending, detecting, analyzing, completed, failed]

/-- The status of a name. -/
def ofText? (s : String) : Option PhotoStatus := all.find? fun status => status.text == s

end PhotoStatus

/-- Why a photo could not be classified. -/
inductive UnclassifiedReason where
  | noCyclist
  | ocrFailed
  | lowConfidence
  | processingError
deriving DecidableEq

namespace UnclassifiedReason

/-- The name of a reason. -/
def text : UnclassifiedReason → String
  | noCyclist => "no_cyclist"
  | ocrFailed => "ocr_failed"
  | lowConfidence => "low_confidence"
  | processingError => "processing_error"

/-- All reasons. -/
def all : List UnclassifiedReason := [noCyclist, ocrFailed, lowConfidence, processingError]

/-- The reason of a name. -/
def ofText? (s : String) : Option UnclassifiedReason := all.find? fun reason => reason.text == s

end UnclassifiedReason

/-- The types of image that are accepted. -/
def acceptedMimeTypes : List String := ["image/jpeg", "image/png", "image/webp"]

/-- A photo. -/
structure Photo where
  id : Uuid
  eventId : Uuid
  filename : String
  storageKey : String
  fileSize : Int
  mimeType : String
  width : Option Int
  height : Option Int
  status : PhotoStatus
  unclassifiedReason : Option UnclassifiedReason
  capturedAt : Option Stamp
  uploadedAt : Stamp
  processedAt : Option Stamp
deriving DecidableEq

namespace Photo

/-- All stamps. -/
def stamps (p : Photo) : List Stamp := p.uploadedAt :: p.capturedAt.toList ++ p.processedAt.toList

/-- The photo with universal time as the offset of stamps that have none. -/
def assumeUtc (p : Photo) : Photo :=
  { p with capturedAt := p.capturedAt.map Stamp.assumeUtc, uploadedAt := p.uploadedAt.assumeUtc,
           processedAt := p.processedAt.map Stamp.assumeUtc }

end Photo

end RaceAlbum
