import RaceAlbum.Json.Spelling

/-!
# Messages

Every message has a key, which stays the same, and a template, whose holes are filled from named arguments. A template
with a hole that no argument fills is shown as it is, and a key that is not in the catalogue is its own message.
-/

namespace RaceAlbum

/-- A piece of a template: words, or a hole for the argument of a name. -/
inductive TemplatePart where
  | words (s : String)
  | hole (name : String)
deriving DecidableEq

/-- A message with holes. -/
abbrev Template := List TemplatePart

namespace Template

/-- The template as it is written, a hole by its name in braces. -/
def written (t : Template) : String := String.join (t.map fun
  | .words s => s
  | .hole name => "\x7b" ++ name ++ "\x7d")

/-- A piece with its hole filled, if there is an argument for it. -/
def fillPart? (args : Fields) : TemplatePart → Option String
  | .words s => some s
  | .hole name => (args.find? name).map Value.spell

/-- The template with every hole filled, if there is an argument for each. -/
def fill? (t : Template) (args : Fields) : Option String := (t.mapM (fillPart? args)).map String.join

end Template

namespace Message

/-- All messages with their keys. -/
def catalogue : List (String × Template) :=
  [("success.CREATED", [.words "Resource created successfully"]),
   ("success.UPDATED", [.words "Resource updated successfully"]),
   ("success.DELETED", [.words "Resource deleted successfully"]),
   ("success.FETCHED", [.words "Resource retrieved successfully"]),
   ("success.LIST", [.words "Resources retrieved successfully"]),
   ("errors.NOT_FOUND", [.hole "entity", .words " with id ", .hole "id", .words " was not found"]),
   ("errors.VALIDATION_FAILED", [.words "Validation failed"]),
   ("errors.EXTERNAL_SERVICE", [.words "External service ", .hole "service", .words " failed"]),
   ("errors.INTERNAL", [.words "An unexpected error occurred"]),
   ("event.name_invalid_length", [.words "Event name must be between 3 and 200 characters"]),
   ("event.date_in_past", [.words "Event date cannot be in the past"]),
   ("photo.filename_empty", [.words "Photo filename cannot be empty"]),
   ("photo.invalid_mime_type", [.words "Photo type must be JPEG, PNG or WebP"]),
   ("photo.invalid_file_size", [.words "Photo file size must be greater than zero"]),
   ("photo.duplicate_filename", [.words "A photo with this filename already exists in the event"]),
   ("photo.plate_number_out_of_range", [.words "Plate number must be between 1 and 999"]),
   ("photo.density_percentage_out_of_range", [.words "Color density must be between 0 and 100"])]

/-- The message of a key, its holes filled from the arguments. -/
def resolve (key : String) (args : Fields) : String :=
  match List.lookup key catalogue with
  | none => key
  | some t => (t.fill? args).getD t.written

end Message

end RaceAlbum
