import RaceAlbum.Detection.Basic
import RaceAlbum.Event.Form
import RaceAlbum.Photo.Form

/-!
# Rows

The rows of the five tables, and entities written as rows and read back. A row keeps the wall clock of a stamp without
its offset, and what is read back is universal time. It keeps a score as it is, a zero without its sign, and what is read
back has four decimal places where it is a confidence and two where it is a share; what is no number is kept as nothing.
-/

namespace RaceAlbum

/-- A row of the table of events. -/
structure EventRow where
  id : Uuid
  name : String
  date : Date
  location : Option String
  status : EventStatus
  totalPhotos : Int
  processedPhotos : Int
  createdAt : Moment
  updatedAt : Moment
  deletedAt : Option Moment
deriving DecidableEq

/-- A row of the table of photos. -/
structure PhotoRow where
  id : Uuid
  eventId : Uuid
  filename : String
  storageKey : String
  fileSize : Int
  mimeType : String
  width : Option Int
  height : Option Int
  status : PhotoStatus
  unclassifiedReason : Option UnclassifiedReason
  capturedAt : Option Moment
  uploadedAt : Moment
  processedAt : Option Moment
deriving DecidableEq

/-- A row of the table of cyclists. -/
structure CyclistRow where
  id : Uuid
  photoId : Uuid
  box : BoundingBox
  confidence : Binary64
  createdAt : Moment
deriving DecidableEq

/-- A row of the table of plates. -/
structure PlateRow where
  id : Uuid
  cyclistId : Uuid
  number : Int
  confidence : Option Binary64
  manuallyCorrected : Bool
  correctedAt : Option Moment
  createdAt : Moment
deriving DecidableEq

/-- A row of the table of colours. -/
structure ColorRow where
  id : Uuid
  cyclistId : Uuid
  item : EquipmentItem
  name : String
  hex : String
  density : Binary64
  createdAt : Moment
deriving DecidableEq

/-- The decimal places of a confidence that is read back. -/
def confidencePlaces : Nat := 4

/-- The decimal places of a share that is read back. -/
def densityPlaces : Nat := 2

namespace EventRow

/-- The row of an event. -/
def ofEntity (e : Event) : EventRow :=
  ⟨e.id, e.name, e.date, e.location, e.status, e.totalPhotos, e.processedPhotos, e.audit.createdAt.wall,
   e.audit.updatedAt.wall, e.audit.deletedAt.map Stamp.wall⟩

/-- The event of a row. -/
def entity (r : EventRow) : Event :=
  ⟨r.id, r.name, r.date, r.location, r.status, r.totalPhotos, r.processedPhotos,
   ⟨.ofUtc r.createdAt, .ofUtc r.updatedAt, r.deletedAt.map .ofUtc⟩⟩

/-- The event of a row, as it stands in a list. -/
def listItem (r : EventRow) : EventListItem :=
  ⟨r.id, r.name, r.date, r.location, r.status.text, r.totalPhotos, r.processedPhotos⟩

/-- The event of a row, by itself. -/
def detail (r : EventRow) : EventDetail := ⟨r.listItem, .ofUtc r.createdAt, .ofUtc r.updatedAt⟩

/-- The event of the row is not deleted. -/
def isActive (r : EventRow) : Bool := r.deletedAt.isNone

/-- The integers of the row, which must have 64 bits. -/
def integers (r : EventRow) : List Int := [r.totalPhotos, r.processedPhotos]

end EventRow

namespace PhotoRow

/-- The row of a photo. -/
def ofEntity (p : Photo) : PhotoRow :=
  ⟨p.id, p.eventId, p.filename, p.storageKey, p.fileSize, p.mimeType, p.width, p.height, p.status,
   p.unclassifiedReason, p.capturedAt.map Stamp.wall, p.uploadedAt.wall, p.processedAt.map Stamp.wall⟩

/-- The photo of a row. -/
def entity (r : PhotoRow) : Photo :=
  ⟨r.id, r.eventId, r.filename, r.storageKey, r.fileSize, r.mimeType, r.width, r.height, r.status,
   r.unclassifiedReason, r.capturedAt.map .ofUtc, .ofUtc r.uploadedAt, r.processedAt.map .ofUtc⟩

/-- The photo of a row, as it stands in a list. -/
def listItem (r : PhotoRow) : PhotoListItem :=
  ⟨r.id, r.eventId, r.filename, r.storageKey, r.status.text, r.width, r.height, .ofUtc r.uploadedAt⟩

/-- The photo of a row with its cyclists, by itself. The address of its object is left open. -/
def detail (r : PhotoRow) (cyclists : List CyclistView) : PhotoDetail :=
  ⟨r.id, r.eventId, r.filename, r.storageKey, none, r.fileSize, r.mimeType, r.width, r.height, r.status.text,
   r.unclassifiedReason.map UnclassifiedReason.text, r.capturedAt.map .ofUtc, .ofUtc r.uploadedAt,
   r.processedAt.map .ofUtc, cyclists⟩

/-- The integers of the row, which must have 64 bits. -/
def integers (r : PhotoRow) : List Int := r.fileSize :: r.width.toList ++ r.height.toList

end PhotoRow

namespace CyclistRow

/-- The row of a cyclist. -/
def ofEntity (c : Cyclist) : CyclistRow :=
  ⟨c.id, c.photoId, c.box, c.confidence.withoutZeroSign, c.createdAt.wall⟩

/-- The confidence that is read back. -/
def shownConfidence (r : CyclistRow) : Binary64 := r.confidence.roundPlaces confidencePlaces

/-- The cyclist of a row. -/
def entity (r : CyclistRow) : Cyclist := ⟨r.id, r.photoId, r.box, r.shownConfidence, .ofUtc r.createdAt⟩

end CyclistRow

namespace PlateRow

/-- The row of a plate. A confidence that is no number is kept as none. -/
def ofEntity (p : Plate) : PlateRow :=
  ⟨p.id, p.cyclistId, p.number, (p.confidence.filter (· != .nan)).map Binary64.withoutZeroSign, p.manuallyCorrected,
   p.correctedAt.map Stamp.wall, p.createdAt.wall⟩

/-- The confidence that is read back. -/
def shownConfidence (r : PlateRow) : Option Binary64 := r.confidence.map (Binary64.roundPlaces confidencePlaces)

/-- The plate of a row. -/
def entity (r : PlateRow) : Plate :=
  ⟨r.id, r.cyclistId, r.number, r.shownConfidence, r.manuallyCorrected, r.correctedAt.map .ofUtc, .ofUtc r.createdAt⟩

/-- The plate of a row, as it is shown. -/
def view (r : PlateRow) : PlateView := ⟨r.number, r.shownConfidence, r.manuallyCorrected⟩

end PlateRow

namespace ColorRow

/-- The row of a colour. -/
def ofEntity (c : EquipmentColor) : ColorRow :=
  ⟨c.id, c.cyclistId, c.item, c.name, c.hex, c.density.withoutZeroSign, c.createdAt.wall⟩

/-- The share that is read back. -/
def shownDensity (r : ColorRow) : Binary64 := r.density.roundPlaces densityPlaces

/-- The colour of a row. -/
def entity (r : ColorRow) : EquipmentColor :=
  ⟨r.id, r.cyclistId, r.item, r.name, r.hex, r.shownDensity, .ofUtc r.createdAt⟩

/-- The colour of a row, as it is shown. -/
def view (r : ColorRow) : ColorView := ⟨r.item.text, r.name, r.hex, r.shownDensity⟩

end ColorRow

/-- The cyclist of a row with its plate and its colours, as it is shown. -/
def CyclistRow.view (r : CyclistRow) (plate : Option PlateRow) (colors : List ColorRow) : CyclistView :=
  ⟨r.id, r.box, r.shownConfidence, plate.map PlateRow.view, colors.map ColorRow.view⟩

end RaceAlbum
