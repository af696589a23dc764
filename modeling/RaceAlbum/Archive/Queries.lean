import RaceAlbum.Archive.Basic
import RaceAlbum.Page

/-!
# Queries

What is read from the archive. Events that are deleted are not found, and photos of deleted events are in no list,
though each of them is found by its identifier.
-/

namespace RaceAlbum.Archive

/-- Sorts rows by a key; rows of the same key keep their order. -/
def sortByKey {α : Type} (key : α → Nat) (xs : List α) : List α := xs.mergeSort fun x y => key x ≤ key y

/-- The items of a page, unless the page lies beyond what 64 bits can count. -/
def pageOf {α : Type} (p : Page) (xs : List α) : Except Failure (List α) :=
  if isInt64 p.take && isInt64 p.skip then .ok (p.items xs) else .error .integerOverflow

/-! ## Events -/

/-- The row of an event that is not deleted. -/
def activeEvent? (a : Archive) (id : Uuid) : Option EventRow := a.events.find? fun r => r.isActive && r.id == id

/-- Whether a row comes before another in the list of events: later days first, and of one day the later created. -/
def eventBefore (r s : EventRow) : Bool :=
  s.date.key < r.date.key || (r.date.key == s.date.key && s.createdAt.key ≤ r.createdAt.key)

/-- The rows of the events that are not deleted, in the order of the list. -/
def listedEvents (a : Archive) : List EventRow := (a.events.filter EventRow.isActive).mergeSort eventBefore

/-- A page of the list of events. -/
def eventPage (a : Archive) (p : Page) : Except Failure (List EventListItem) :=
  (pageOf p a.listedEvents).map (List.map EventRow.listItem)

/-! ## Photos -/

/-- The row of a photo. -/
def photo? (a : Archive) (id : Uuid) : Option PhotoRow := a.photos.find? fun r => r.id == id

/-- Whether the event of a photo is there and not deleted. -/
def eventIsActive (a : Archive) (r : PhotoRow) : Bool := a.events.any fun e => e.id == r.eventId && e.isActive

/-- Whether some cyclist on a photo has a plate of a number. -/
def hasPlateNumber (a : Archive) (photoId : Uuid) (number : Int) : Bool :=
  a.plates.any fun r => r.number == number && a.photoHasCyclist photoId r.cyclistId

/-- Whether a row comes before another in a list of photos: the later uploaded first, and of one moment the smaller
identifier. -/
def photoBefore (r s : PhotoRow) : Bool :=
  s.uploadedAt.key < r.uploadedAt.key || (r.uploadedAt.key == s.uploadedAt.key && r.id.key ≤ s.id.key)

/-- The filters of a search, their bounds in universal time. -/
structure Search where
  eventId : Option Uuid
  status : Option PhotoStatus
  plateNumber : Option Int
  fromMoment : Option Moment
  toMoment : Option Moment

/-- A bound of a search in universal time. -/
def searchBound (s : Stamp) : Except Failure Moment :=
  match s.utc? with
  | some m => .ok m
  | none => .error .dateOverflow

/-- A bound that may be missing. -/
def searchBound? : Option Stamp → Except Failure (Option Moment)
  | none => .ok none
  | some s => (searchBound s).map some

/-- The filters with their bounds in universal time. -/
def Search.ofFilters (f : PhotoFilters) : Except Failure Search := do
  let fromMoment ← searchBound? f.fromDate
  let toMoment ← searchBound? f.toDate
  return ⟨f.eventId, f.status, f.plateNumber, fromMoment, toMoment⟩

/-- Whether a filter that may be missing lets something pass. -/
def passes {α : Type} (filter : Option α) (holds : α → Bool) : Bool := match filter with
  | none => true
  | some x => holds x

/-- Whether a photo matches a search. -/
def isMatch (a : Archive) (s : Search) (r : PhotoRow) : Bool :=
  a.eventIsActive r && passes s.eventId (· == r.eventId) && passes s.status (· == r.status) &&
    passes s.plateNumber (a.hasPlateNumber r.id) && passes s.fromMoment (fun m => m.key ≤ r.uploadedAt.key) &&
    passes s.toMoment (fun m => r.uploadedAt.key ≤ m.key)

/-- The rows of the photos that match a search, in the order of the list. -/
def matching (a : Archive) (s : Search) : List PhotoRow := (a.photos.filter (a.isMatch s)).mergeSort photoBefore

/-- A page of a search. -/
def searchPage (a : Archive) (f : PhotoFilters) (p : Page) : Except Failure (List PhotoListItem) := do
  let s ← Search.ofFilters f
  let rows ← pageOf p (a.matching s)
  return rows.map PhotoRow.listItem

/-- The rows of the photos of an event that is not deleted, in the order of the list. -/
def listedPhotos (a : Archive) (eventId : Uuid) : List PhotoRow :=
  (a.photos.filter fun r => a.eventIsActive r && r.eventId == eventId).mergeSort photoBefore

/-- A page of the photos of an event. -/
def photoPage (a : Archive) (eventId : Uuid) (p : Page) : Except Failure (List PhotoListItem) :=
  (pageOf p (a.listedPhotos eventId)).map (List.map PhotoRow.listItem)

/-- The cyclists on a photo in the order of their creation. -/
def cyclistsOf (a : Archive) (photoId : Uuid) : List CyclistRow :=
  sortByKey (fun r => r.createdAt.key) (a.cyclists.filter (ofPhoto photoId))

/-- The plate of a cyclist. -/
def plateOf? (a : Archive) (cyclistId : Uuid) : Option PlateRow := a.plates.find? fun r => r.cyclistId == cyclistId

/-- The colours of a cyclist in the order of their creation. -/
def colorsOf (a : Archive) (cyclistId : Uuid) : List ColorRow :=
  sortByKey (fun r => r.createdAt.key) (a.colors.filter fun r => r.cyclistId == cyclistId)

/-- A cyclist with its plate and its colours, as it is shown. -/
def cyclistView (a : Archive) (r : CyclistRow) : CyclistView := r.view (a.plateOf? r.id) (a.colorsOf r.id)

/-- A photo by itself, with all that was seen on it. -/
def photoDetail? (a : Archive) (id : Uuid) : Option PhotoDetail :=
  (a.photo? id).map fun r => r.detail ((a.cyclistsOf id).map a.cyclistView)

end RaceAlbum.Archive
