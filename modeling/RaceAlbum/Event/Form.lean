import RaceAlbum.Event.Basic
import RaceAlbum.Schema.Names
import RaceAlbum.Schema.Scalar

/-!
# The forms of events

How a new event and the change of an event arrive, and how an event leaves. The day of an event may arrive as a
stamp: `utcDay` takes the day that it is in universal time.
-/

namespace RaceAlbum

/-- A new event. -/
structure NewEvent where
  name : String
  date : Date
  location : Option String
deriving DecidableEq

/-- What a message says about a field: it is not there, it is there with nothing in it, or it has a value. -/
inductive FieldEntry (α : Type) where
  | absent
  | empty
  | value (a : α)
deriving DecidableEq

namespace FieldEntry

/-- The value, if there is one. -/
def toOption {α : Type} : FieldEntry α → Option α
  | value a => some a
  | _ => none

/-- Whether the field is there. -/
def isPresent {α : Type} : FieldEntry α → Bool
  | absent => false
  | _ => true

end FieldEntry

/-- The change of an event, as it arrives. -/
structure EventPatch where
  name : FieldEntry String
  date : FieldEntry Date
  location : FieldEntry String
deriving DecidableEq

/-- An event in a list. -/
structure EventListItem where
  id : Uuid
  name : String
  date : Date
  location : Option String
  status : String
  totalPhotos : Int
  processedPhotos : Int
deriving DecidableEq

/-- An event by itself. -/
structure EventDetail where
  item : EventListItem
  createdAt : Stamp
  updatedAt : Stamp
deriving DecidableEq

/-- The fewest characters of the name of an event. -/
def nameMin : Nat := 3

/-- The most characters of the name of an event. -/
def nameMax : Nat := 200

/-- The most characters of the place of an event. -/
def locationMax : Nat := 200

/-- A day taken out of a stamp, in universal time; a stamp without an offset counts as it is. -/
def Stamp.utcDay (s : Stamp) : Checked Date :=
  match s.utc? with
  | some m => .ok m.date
  | none => .outOfCalendar

/-- A day taken out of a value: a text with the letter `T` is a stamp, and a stamp gives its day in universal time. All
other values stay as they are. -/
def utcDay : Reader Value
  | .text s =>
    if s.toList.contains 'T' then (Reader.stamp (.text s)).andThen fun t => t.utcDay.map .date else .ok (.text s)
  | .stamp t => t.utcDay.map .date
  | v => .ok v

/-- The day of an event. -/
def eventDay : Reader Date := fun v => (utcDay v).andThen Reader.date

namespace FieldEntry

/-- Reads a member that may be missing or empty. -/
def read {α : Type} (n : MemberName) (r : Reader α) (fields : Fields) : Checked (FieldEntry α) :=
  match n.find? fields with
  | none => .ok .absent
  | some (name, v) => ((Reader.optional r v).under (.member name)).map fun
    | none => .empty
    | some a => .value a

end FieldEntry

/-- The form of a new event. -/
def NewEvent.form : Form NewEvent where
  name := "EventCreate"
  members := [.name, .date, .location]
  read fields := NewEvent.mk <$> MemberName.required .name (Reader.boundedText nameMin nameMax) fields
    <*> MemberName.required .date eventDay fields
    <*> MemberName.withDefault .location (Reader.optional (Reader.boundedText 0 locationMax)) none fields
  write e := [("name", .text e.name), ("date", .date e.date), ("location", .ofOption .text e.location)]

/-- A field of a change as a value: nothing where it is absent or empty. -/
def FieldEntry.toValue {α : Type} (f : α → Value) (e : FieldEntry α) : Value := .ofOption f e.toOption

/-- The form of a change of an event. -/
def EventPatch.form : Form EventPatch where
  name := "EventUpdate"
  members := [.name, .date, .location]
  read fields := EventPatch.mk <$> FieldEntry.read .name (Reader.boundedText nameMin nameMax) fields
    <*> FieldEntry.read .date eventDay fields
    <*> FieldEntry.read .location (Reader.boundedText 0 locationMax) fields
  write p := [("name", p.name.toValue .text), ("date", p.date.toValue .date), ("location", p.location.toValue .text)]

/-- The form of an event in a list. -/
def EventListItem.form : Form EventListItem where
  name := "EventListItem"
  members := [.id, .name, .date, .location, .status, .totalPhotos, .processedPhotos]
  read fields := EventListItem.mk <$> MemberName.required .id Reader.uuid fields
    <*> MemberName.required .name Reader.text fields
    <*> MemberName.required .date Reader.date fields
    <*> MemberName.withDefault .location (Reader.optional Reader.text) none fields
    <*> MemberName.required .status Reader.text fields
    <*> MemberName.required .totalPhotos Reader.integer fields
    <*> MemberName.required .processedPhotos Reader.integer fields
  write e := [("id", .uuid e.id), ("name", .text e.name), ("date", .date e.date),
    ("location", .ofOption .text e.location), ("status", .text e.status), ("totalPhotos", .int e.totalPhotos),
    ("processedPhotos", .int e.processedPhotos)]

/-- The form of an event by itself. -/
def EventDetail.form : Form EventDetail where
  name := "EventDetail"
  members := EventListItem.form.members ++ [.createdAt, .updatedAt]
  read fields := EventDetail.mk <$> EventListItem.form.read fields
    <*> MemberName.required .createdAt Reader.stamp fields
    <*> MemberName.required .updatedAt Reader.stamp fields
  write e := EventListItem.form.write e.item ++ [("createdAt", .stamp e.createdAt), ("updatedAt", .stamp e.updatedAt)]

end RaceAlbum
