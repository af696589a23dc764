import RaceAlbum.Http.Pattern
import RaceAlbum.Http.Request
import RaceAlbum.Schema.Catalogue
import RaceAlbum.Service.Classification

/-!
# Routes

A route answers the requests of one method to the paths of one pattern. The first route that fits method and path
serves a request. A path that fits under another method only, or that would fit with or without a slash at its end, is
told apart from one that fits nowhere.
-/

namespace RaceAlbum

/-- What a route makes of a request: data in an envelope, a bare value, an error, or the way to another address. -/
inductive Reply where
  | wrapped (status : Int) (data : Value) (messageKey : String)
  | bare (v : Value)
  | error (report : ErrorReport)
  | redirect (location : String)

/-- A route. -/
structure Route where
  method : String
  pattern : Pattern
  serve : Request → Request.Parts → Program Reply

namespace Route

/-- Reads what a request brings and goes on from it. -/
def reading {α : Type} (c : Checked α) (f : α → Program Reply) : Program Reply := do
  let a ← Program.ofExcept (c.toExcept .request)
  f a

/-- What is said of a body that is no text, or whose values are too large. -/
def bodyUnreadable : String := "There was an error parsing the body"

/-- Reads the body of a request as JSON and goes on from it. -/
def readingBody (r : Request) (f : Request.Document → Program Reply) : Program Reply :=
  match r.document with
  | .ok d => f d
  | .error (some (.badAt n)) => .failed (.malformed .request [⟨[.member "body", .index n], .notJson n⟩])
  | .error _ => .done (.error (.ofStatus 400 (.text bodyUnreadable)))

/-- Reads the body of a request as a form and goes on from its parts. -/
def readingForm (r : Request) (f : List FormPart → Program Reply) : Program Reply :=
  match r.formParts with
  | .ok parts => f parts
  | .error fault => .done (.error (.ofStatus 400 (.text fault.words)))

/-- The name of the part of a path that identifies an event. -/
def eventPart : String := "event_id"

/-- The name of the part of a path that identifies a photo. -/
def photoPart : String := "photo_id"

/-- The identifier of an event in a path. -/
def eventId (parts : Request.Parts) : Checked Uuid := Request.pathId eventPart parts

/-- The identifier of a photo in a path. -/
def photoId (parts : Request.Parts) : Checked Uuid := Request.pathId photoPart parts

/-- An identifier as data. -/
def idData (id : Uuid) : Value := EntityId.form.value ⟨id⟩

/-- A list as data. -/
def listData {α : Type} (f : Form α) (xs : List α) : Value := .list (xs.map f.value)

/-- The reply to what was asked for. -/
def fetched (data : Value) : Reply := .wrapped 200 data "success.FETCHED"

/-- The reply with a list. -/
def listed (data : Value) : Reply := .wrapped 200 data "success.LIST"

/-- The reply to what was created. -/
def created (data : Value) : Reply := .wrapped 201 data "success.CREATED"

/-- The reply to what was changed. -/
def updated (data : Value) : Reply := .wrapped 200 data "success.UPDATED"

/-- The reply to what was deleted. -/
def deleted (data : Value) : Reply := .wrapped 200 data "success.DELETED"

/-! ## Events -/

/-- Lists events. -/
def listEvents (s : Settings) (r : Request) (_ : Request.Parts) : Program Reply :=
  reading (r.page s) fun page => do
    let events ← EventService.list page
    return listed (listData EventListItem.form events)

/-- Creates an event. -/
def createEvent (r : Request) (_ : Request.Parts) : Program Reply :=
  readingBody r fun d => reading (Request.bodyOf NewEvent.form d) fun e => do
    let id ← EventService.create e
    return created (idData id)

/-- Shows an event. -/
def showEvent (_ : Request) (parts : Request.Parts) : Program Reply :=
  reading (eventId parts) fun id => do
    let e ← EventService.get id
    return fetched (EventDetail.form.value e)

/-- Changes an event. -/
def updateEvent (r : Request) (parts : Request.Parts) : Program Reply :=
  readingBody r fun d => reading (Prod.mk <$> eventId parts <*> Request.bodyOf EventPatch.form d) fun (id, patch) => do
    let id ← EventService.update id patch
    return updated (idData id)

/-- Deletes an event. -/
def deleteEvent (_ : Request) (parts : Request.Parts) : Program Reply :=
  reading (eventId parts) fun id => do
    let id ← EventService.delete id
    return deleted (idData id)

/-! ## Photos -/

/-- Lists the photos of an event. -/
def listPhotos (s : Settings) (r : Request) (parts : Request.Parts) : Program Reply :=
  reading (Prod.mk <$> eventId parts <*> r.page s) fun (id, page) => do
    let photos ← PhotoService.list id page
    return listed (listData PhotoListItem.form photos)

/-- Uploads photos to an event. -/
def uploadPhotos (s : Settings) (r : Request) (parts : Request.Parts) : Program Reply :=
  readingForm r fun form => reading (Prod.mk <$> eventId parts <*> Request.uploads form) fun (id, files) => do
    let files ← Program.ofExcept (s.uploads.check files)
    let ids ← PhotoService.upload id files
    return created (.list (ids.map idData))

/-- Searches for photos. -/
def searchPhotos (s : Settings) (r : Request) (_ : Request.Parts) : Program Reply :=
  reading (Prod.mk <$> r.filters <*> r.page s) fun (filters, page) => do
    let photos ← PhotoService.search filters page
    return listed (listData PhotoListItem.form photos)

/-- Shows a photo. -/
def showPhoto (_ : Request) (parts : Request.Parts) : Program Reply :=
  reading (photoId parts) fun id => do
    let p ← PhotoService.get id
    return fetched (PhotoDetail.form.value p)

/-- Records what was seen on a photo. -/
def classifyPhoto (r : Request) (parts : Request.Parts) : Program Reply :=
  readingBody r fun d =>
    reading (Prod.mk <$> photoId parts <*> Request.bodyOf PhotoClassification.form d) fun (id, c) => do
      let id ← ClassificationService.classify id c.cyclists
      return updated (idData id)

/-- Deletes a photo. -/
def deletePhoto (_ : Request) (parts : Request.Parts) : Program Reply :=
  reading (photoId parts) fun id => do
    let id ← PhotoService.delete id
    return deleted (idData id)

/-! ## All routes -/

/-- Says that the program is there. -/
def health (_ : Request) (_ : Request.Parts) : Program Reply := .done (.bare (.object [("status", .text "ok")]))

/-- The routes of the programming interface below its root. -/
def api (s : Settings) : List Route :=
  let below (path : String) := Pattern.ofPath (s.apiRoot ++ path)
  let event := "/events/\x7b" ++ eventPart ++ "\x7d"
  let photo := "/photos/\x7b" ++ photoPart ++ "\x7d"
  [⟨"GET", below "/events", listEvents s⟩, ⟨"POST", below "/events", createEvent⟩,
   ⟨"GET", below event, showEvent⟩, ⟨"PATCH", below event, updateEvent⟩, ⟨"DELETE", below event, deleteEvent⟩,
   ⟨"GET", below (event ++ "/photos"), listPhotos s⟩, ⟨"POST", below (event ++ "/photos"), uploadPhotos s⟩,
   ⟨"GET", below "/photos/search", searchPhotos s⟩, ⟨"GET", below photo, showPhoto⟩,
   ⟨"PATCH", below (photo ++ "/classify"), classifyPhoto⟩, ⟨"DELETE", below photo, deletePhoto⟩]

/-- The route by which one learns that the program is there. -/
def healthRoute : Route := ⟨"GET", Pattern.ofPath "/health", health⟩

/-! ## Finding a route -/

/-- What is found for a method and a path. -/
inductive Found where
  | route (r : Route) (parts : Request.Parts)
  | wrongMethod
  | nothing

/-- The route that serves a method and a path. -/
def find (routes : List Route) (method path : String) : Found :=
  let fitting := routes.filterMap fun r => (r.pattern.parts? path.toList).map fun parts => (r, parts)
  match fitting.find? fun (r, _) => r.method == method with
  | some (r, parts) => .route r parts
  | none => if fitting.isEmpty then .nothing else .wrongMethod

/-- Whether a path fits under some method. -/
def isKnown (routes : List Route) (path : String) : Bool :=
  routes.any fun r => (r.pattern.parts? path.toList).isSome

/-- The same path without the slashes at its end, or with one if it has none. -/
def otherPath (path : String) : String :=
  if path.toList.getLast? = some '/' then trimEndText (· == '/') path else path ++ "/"

/-- The path that a request may have meant: the root alone means itself. -/
def meantPath? (routes : List Route) (path : String) : Option String :=
  if path ≠ "/" ∧ isKnown routes (otherPath path) then some (otherPath path) else none

end Route

end RaceAlbum
