import RaceAlbum.Calendar.Stamp
import RaceAlbum.Uuid

/-!
# Events

An event is a race with a name, a day and perhaps a place. It is never erased: a deleted event keeps its row and
carries the moment of its deletion.
-/

namespace RaceAlbum

/-- How far the photos of an event are processed. -/
inductive EventStatus where
  | draft
  | uploading
  | processing
  | completed
deriving DecidableEq

namespace EventStatus

/-- The name of a status. -/
def text : EventStatus → String
  | draft => "draft"
  | uploading => "uploading"
  | processing => "processing"
  | completed => "completed"

/-- All statuses. -/
def all : List EventStatus := [draft, uploading, processing, completed]

/-- The status of a name. -/
def ofText? (s : String) : Option EventStatus := all.find? fun status => status.text == s

end EventStatus

/-- When an entity was created, last changed and, perhaps, deleted. -/
structure Audit where
  createdAt : Stamp
  updatedAt : Stamp
  deletedAt : Option Stamp
deriving DecidableEq

/-- An event. -/
structure Event where
  id : Uuid
  name : String
  date : Date
  location : Option String
  status : EventStatus
  totalPhotos : Int
  processedPhotos : Int
  audit : Audit
deriving DecidableEq

namespace Audit

/-- All stamps. -/
def stamps (a : Audit) : List Stamp := [a.createdAt, a.updatedAt] ++ a.deletedAt.toList

/-- The stamps with universal time as their offset where they have none. -/
def assumeUtc (a : Audit) : Audit := ⟨a.createdAt.assumeUtc, a.updatedAt.assumeUtc, a.deletedAt.map Stamp.assumeUtc⟩

end Audit

/-- The event with universal time as the offset of stamps that have none. -/
def Event.assumeUtc (e : Event) : Event := { e with audit := e.audit.assumeUtc }

/-- Whether an event is deleted. -/
def Event.isDeleted (e : Event) : Bool := e.audit.deletedAt.isSome

end RaceAlbum
