import RaceAlbum.Exif.Basic
import RaceAlbum.Photo.Rules
import RaceAlbum.Service.Events
import RaceAlbum.Storage.Basic

/-!
# The service of photos

Uploading, listing, searching, showing and deleting photos. All files of an upload are looked at before the first is
stored. Then they are stored one by one: first the object, then the row, and an object whose row is refused is removed
again, whatever comes of the removal. Deleting goes the other way round: first the row, then the object.
-/

namespace RaceAlbum

/-- A file that is uploaded. -/
structure UploadedFile where
  filename : String
  contentType : String
  data : Bytes
deriving DecidableEq

namespace PhotoService

/-- The name of a photo in refusals. -/
def entity : String := "Photo"

/-- A photo that an uploaded file is to become. -/
def prepare (eventId : Uuid) (file : UploadedFile) : Program (UploadedFile × Photo) := do
  let fresh ← Program.takeId
  let captured ← Program.ofExcept (Exif.capturedAt? file.data)
  let photo ← Photo.create
    { eventId, filename := file.filename, storageKey := photoKey eventId fresh file.filename,
      fileSize := file.data.length, mimeType := file.contentType, width := none, height := none,
      capturedAt := captured.map .ofUtc }
  return (file, photo)

/-- Removes an object that no row refers to. A refusal of the store is passed over. -/
def discard (key : String) : Program Unit := do
  match ← (Program.call (.removeObject key)).attempt with
  | .error (.refused _) => return ()
  | .error f => .failed f
  | .ok () => return ()

/-- Stores one file: its object and its row. -/
def store (prepared : UploadedFile × Photo) : Program Uuid := do
  let (file, photo) := prepared
  let () ← Program.call (.putObject photo.storageKey file.contentType file.data)
  let saved : Except Failure Photo ← (Program.call (.savePhoto photo)).attempt
  match saved with
  | .ok saved => return saved.id
  | .error f =>
    discard photo.storageKey
    .failed f

/-- Uploads files to an event and tells the identifiers of the photos. -/
def upload (eventId : Uuid) (files : List UploadedFile) : Program (List Uuid) := do
  let e : Option Event ← Program.call (.findEvent eventId)
  let _ ← Program.found EventService.entity eventId e
  let prepared ← Program.forAll (prepare eventId) files
  Program.forAll store prepared

/-- A page of the photos of an event. -/
def list (eventId : Uuid) (page : Page) : Program (List PhotoListItem) := .call (.listPhotos eventId page)

/-- A page of a search. -/
def search (filters : PhotoFilters) (page : Page) : Program (List PhotoListItem) := .call (.searchPhotos filters page)

/-- A photo by itself, with the address of its object. -/
def get (id : Uuid) : Program PhotoDetail := do
  let p : Option PhotoDetail ← Program.call (.showPhoto id)
  let p ← Program.found entity id p
  let url : String ← Program.call (.objectUrl p.storageKey)
  return { p with url := some url }

/-- A photo that is to be changed. -/
def find (id : Uuid) : Program Photo := do
  let p : Option Photo ← Program.call (.findPhoto id)
  Program.found entity id p

/-- Deletes a photo. -/
def delete (id : Uuid) : Program Uuid := do
  let p ← find id
  let () ← Program.call (.deletePhoto p.id)
  let () ← Program.call (.removeObject p.storageKey)
  return p.id

end PhotoService

end RaceAlbum
