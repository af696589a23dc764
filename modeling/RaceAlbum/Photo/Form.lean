import RaceAlbum.Detection.Form
import RaceAlbum.Photo.Basic

/-!
# The forms of photos

How photos are searched for, and how they leave: in a list, or by themselves with all that was seen on them.
-/

namespace RaceAlbum

/-- A photo in a list. -/
structure PhotoListItem where
  id : Uuid
  eventId : Uuid
  filename : String
  storageKey : String
  status : String
  width : Option Int
  height : Option Int
  uploadedAt : Stamp
deriving DecidableEq

/-- A photo by itself. -/
structure PhotoDetail where
  id : Uuid
  eventId : Uuid
  filename : String
  storageKey : String
  url : Option String
  fileSize : Int
  mimeType : String
  width : Option Int
  height : Option Int
  status : String
  unclassifiedReason : Option String
  capturedAt : Option Stamp
  uploadedAt : Stamp
  processedAt : Option Stamp
  cyclists : List CyclistView
deriving DecidableEq

/-- What a search for photos asks for; a filter that is not given lets every photo pass. -/
structure PhotoFilters where
  eventId : Option Uuid
  status : Option PhotoStatus
  plateNumber : Option Int
  fromDate : Option Stamp
  toDate : Option Stamp
deriving DecidableEq

/-- The form of a photo in a list. -/
def PhotoListItem.form : Form PhotoListItem where
  name := "PhotoListItem"
  members := [.id, .eventId, .filename, .storageKey, .status, .width, .height, .uploadedAt]
  read fields := PhotoListItem.mk <$> MemberName.required .id Reader.uuid fields
    <*> MemberName.required .eventId Reader.uuid fields
    <*> MemberName.required .filename Reader.text fields
    <*> MemberName.required .storageKey Reader.text fields
    <*> MemberName.required .status Reader.text fields
    <*> MemberName.withDefault .width (Reader.optional Reader.integer) none fields
    <*> MemberName.withDefault .height (Reader.optional Reader.integer) none fields
    <*> MemberName.required .uploadedAt Reader.stamp fields
  write p := [("id", .uuid p.id), ("eventId", .uuid p.eventId), ("filename", .text p.filename),
    ("storageKey", .text p.storageKey), ("status", .text p.status), ("width", .ofOption .int p.width),
    ("height", .ofOption .int p.height), ("uploadedAt", .stamp p.uploadedAt)]

/-- The form of a photo by itself. -/
def PhotoDetail.form : Form PhotoDetail where
  name := "PhotoDetail"
  members := [.id, .eventId, .filename, .storageKey, .url, .fileSize, .mimeType, .width, .height, .status,
    .unclassifiedReason, .capturedAt, .uploadedAt, .processedAt, .detectedCyclists]
  read fields := PhotoDetail.mk <$> MemberName.required .id Reader.uuid fields
    <*> MemberName.required .eventId Reader.uuid fields
    <*> MemberName.required .filename Reader.text fields
    <*> MemberName.required .storageKey Reader.text fields
    <*> MemberName.withDefault .url (Reader.optional Reader.text) none fields
    <*> MemberName.required .fileSize Reader.integer fields
    <*> MemberName.required .mimeType Reader.text fields
    <*> MemberName.withDefault .width (Reader.optional Reader.integer) none fields
    <*> MemberName.withDefault .height (Reader.optional Reader.integer) none fields
    <*> MemberName.required .status Reader.text fields
    <*> MemberName.withDefault .unclassifiedReason (Reader.optional Reader.text) none fields
    <*> MemberName.withDefault .capturedAt (Reader.optional Reader.stamp) none fields
    <*> MemberName.required .uploadedAt Reader.stamp fields
    <*> MemberName.withDefault .processedAt (Reader.optional Reader.stamp) none fields
    <*> MemberName.withDefault .detectedCyclists (Reader.list CyclistView.form.reader) [] fields
  write p := [("id", .uuid p.id), ("eventId", .uuid p.eventId), ("filename", .text p.filename),
    ("storageKey", .text p.storageKey), ("url", .ofOption .text p.url), ("fileSize", .int p.fileSize),
    ("mimeType", .text p.mimeType), ("width", .ofOption .int p.width), ("height", .ofOption .int p.height),
    ("status", .text p.status), ("unclassifiedReason", .ofOption .text p.unclassifiedReason),
    ("capturedAt", .ofOption .stamp p.capturedAt), ("uploadedAt", .stamp p.uploadedAt),
    ("processedAt", .ofOption .stamp p.processedAt),
    ("detectedCyclists", .list (p.cyclists.map CyclistView.form.value))]

/-- Reads the status of a photo. -/
def PhotoStatus.reader : Reader PhotoStatus := Reader.member (PhotoStatus.all.map PhotoStatus.text) PhotoStatus.ofText?

/-- Reads the number of a plate. -/
def plateNumberReader : Reader Int := Reader.boundedInteger plateNumberMin (some plateNumberMax)

/-- The form of a search for photos. -/
def PhotoFilters.form : Form PhotoFilters where
  name := "PhotoSearchFilters"
  members := [.eventId, .status, .plateNumber, .fromDate, .toDate]
  read fields := PhotoFilters.mk <$> MemberName.withDefault .eventId (Reader.optional Reader.uuid) none fields
    <*> MemberName.withDefault .status (Reader.optional PhotoStatus.reader) none fields
    <*> MemberName.withDefault .plateNumber (Reader.optional plateNumberReader) none fields
    <*> MemberName.withDefault .fromDate (Reader.optional Reader.stamp) none fields
    <*> MemberName.withDefault .toDate (Reader.optional Reader.stamp) none fields
  write f := [("eventId", .ofOption .uuid f.eventId), ("status", .ofOption (fun s => .text s.text) f.status),
    ("plateNumber", .ofOption .int f.plateNumber), ("fromDate", .ofOption .stamp f.fromDate),
    ("toDate", .ofOption .stamp f.toDate)]

end RaceAlbum
