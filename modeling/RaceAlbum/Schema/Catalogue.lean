import RaceAlbum.Event.Form
import RaceAlbum.Photo.Form

/-!
# The catalogue of forms

All forms of messages by name: the forms of events, photos and detections, and those of an identifier alone and of an
error.
-/

namespace RaceAlbum

/-- An identifier by itself. -/
structure EntityId where
  id : Uuid
deriving DecidableEq

/-- The form of an identifier by itself. -/
def EntityId.form : Form EntityId where
  name := "EntityId"
  members := [.id]
  read fields := EntityId.mk <$> MemberName.required .id Reader.uuid fields
  write e := [("id", .uuid e.id)]

/-- What an answer says about an error. -/
structure ErrorDetail where
  code : String
  message : String
  shouldThrow : Bool
  fields : Option FieldMessages
  details : Value
  stack : Option String

/-- The form of an error. -/
def ErrorDetail.form : Form ErrorDetail where
  name := "ErrorDetail"
  members := [.code, .message, .shouldThrow, .fields, .details, .stack]
  read fields := ErrorDetail.mk <$> MemberName.required .code Reader.text fields
    <*> MemberName.required .message Reader.text fields
    <*> MemberName.withDefault .shouldThrow Reader.boolean false fields
    <*> MemberName.withDefault .fields (Reader.optional (Reader.dictionary (Reader.list Reader.text))) none fields
    <*> MemberName.withDefault .details Reader.any .null fields
    <*> MemberName.withDefault .stack (Reader.optional Reader.text) none fields
  write e := [("code", .text e.code), ("message", .text e.message), ("shouldThrow", .bool e.shouldThrow),
    ("fields", .ofOption FieldMessages.value e.fields), ("details", e.details), ("stack", .ofOption .text e.stack)]

/-- A value that was checked against a form: as it is written, and the plain names of the members that were given. -/
structure CheckedValue where
  value : Value
  given : List String

/-- A form by its name alone: what it makes of a value. -/
structure FormEntry where
  name : String
  check : Reader CheckedValue

/-- The entry of a form in the catalogue. -/
def Form.entry {α : Type} (f : Form α) : FormEntry where
  name := f.name
  check v := (f.reader v).map fun a =>
    { value := f.value a
      given := match v with
        | .object fields => (f.members.filter fun n => n.given fields).map MemberName.plain
        | _ => [] }

/-- All forms. -/
def formCatalogue : List FormEntry :=
  [NewEvent.form.entry, EventPatch.form.entry, EventListItem.form.entry, EventDetail.form.entry,
   PlateDetection.form.entry, ColorDetection.form.entry, Detection.form.entry, PhotoClassification.form.entry,
   PlateView.form.entry, ColorView.form.entry, CyclistView.form.entry, PhotoListItem.form.entry, PhotoDetail.form.entry,
   PhotoFilters.form.entry, EntityId.form.entry, ErrorDetail.form.entry]

/-- The form of a name. -/
def findForm? (name : String) : Option FormEntry := formCatalogue.find? fun e => e.name == name

end RaceAlbum
