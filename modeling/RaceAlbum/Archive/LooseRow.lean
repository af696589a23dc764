import RaceAlbum.Detection.Rules
import RaceAlbum.Event.Form
import RaceAlbum.Photo.Form

/-!
# Loose rows

A row as any table may hand it out: values by the names of columns, with nothing known about them. Reading it as an
entity checks the members of enumerations, takes stamps without an offset as universal time and brings scores into
binary64; reading it as a view checks the form of the view instead. The columns that neither looks at stay as they
are. What was made of a detection has a row as well, before any table has kept it.
-/

namespace RaceAlbum

/-- A row of which nothing is known. -/
abbrev LooseRow := Fields

namespace LooseRow

/-- The value of a column; nothing where there is none. -/
def column (r : LooseRow) (name : String) : Value := (Fields.find? r name).getD .null

/-- A column with its name. -/
def keep (r : LooseRow) (name : String) : String × Value := (name, r.column name)

/-- The rows that a column holds. -/
def rows (r : LooseRow) (name : String) : List LooseRow := match r.column name with
  | .list vs => vs.filterMap fun
    | .object fields => some fields
    | _ => none
  | _ => []

/-- The row that a column holds. -/
def row? (r : LooseRow) (name : String) : Option LooseRow := match r.column name with
  | .object fields => some fields
  | _ => none

/-! ## Columns -/

/-- The result of an operation on a value. -/
def ofMisfit {α : Type} : Except Misfit α → Except Failure α := Except.mapError .misfit

/-- A stamp with its offset, where there is one; one without is universal time. -/
def stamp : Value → Except Failure Value
  | .null => .ok .null
  | .stamp s => .ok (.stamp s.assumeUtc)
  | v => .error (.misfit (.notAStamp v))

/-- A stamp column with its name. -/
def keepStamp (r : LooseRow) (name : String) : Except Failure (String × Value) :=
  (stamp (r.column name)).map fun v => (name, v)

/-- A score in binary64, where there is one. -/
def score : Value → Except Failure Value
  | .null => .ok .null
  | v => ofMisfit (v.toNumber.map .float)

/-- A score column with its name. -/
def keepScore (r : LooseRow) (name : String) : Except Failure (String × Value) :=
  (score (r.column name)).map fun v => (name, v)

/-- An integer column with its name, what comes after the point cut off. -/
def keepInteger (r : LooseRow) (name : String) : Except Failure (String × Value) :=
  ofMisfit ((r.column name).toInteger.map fun n => (name, .int n))

/-- The column of a box with its name. -/
def keepBox (r : LooseRow) : Except Failure (String × Value) :=
  ofMisfit ((r.column "bounding_box").toDictionary.map fun fields => ("bounding_box", .object fields))

/-- A member of an enumeration. -/
def member (enumeration : String) (texts : List String) : Value → Except Failure Value
  | .text s => if texts.contains s then .ok (.text s) else .error (.notAMember (.text s) enumeration)
  | v => .error (.notAMember v enumeration)

/-- A member of an enumeration, or nothing. -/
def member? (enumeration : String) (texts : List String) : Value → Except Failure Value
  | .null => .ok .null
  | v => member enumeration texts v

/-- Whether a value counts as yes: it is neither nothing, nor zero, nor empty. -/
def isYes : Value → Bool
  | .null => false
  | .bool b => b
  | .int n => n != 0
  | .float x => !x.eq .zero
  | .decimal d => !d.isZero
  | .text s => s != ""
  | .list vs => !vs.isEmpty
  | .object fields => !fields.isEmpty
  | _ => true

/-! ## Entities -/

/-- The row of an event, read as an event. -/
def event (r : LooseRow) : Except Failure LooseRow := do
  let status ← member "EventStatus" (EventStatus.all.map EventStatus.text) (r.column "status")
  let createdAt ← r.keepStamp "created_at"
  let updatedAt ← r.keepStamp "updated_at"
  let deletedAt ← r.keepStamp "deleted_at"
  return [r.keep "id", r.keep "name", r.keep "event_date", r.keep "location", ("status", status), r.keep "total_photos",
    r.keep "processed_photos", createdAt, updatedAt, deletedAt]

/-- The row of a photo, read as a photo. -/
def photo (r : LooseRow) : Except Failure LooseRow := do
  let fileSize ← r.keepInteger "file_size"
  let status ← member "PhotoStatus" (PhotoStatus.all.map PhotoStatus.text) (r.column "status")
  let reason ← member? "UnclassifiedReason" (UnclassifiedReason.all.map UnclassifiedReason.text)
    (r.column "unclassified_reason")
  let capturedAt ← r.keepStamp "captured_at"
  let uploadedAt ← r.keepStamp "uploaded_at"
  let processedAt ← r.keepStamp "processed_at"
  return [r.keep "id", r.keep "event_id", r.keep "filename", r.keep "storage_key", fileSize, r.keep "mime_type",
    r.keep "width", r.keep "height", ("status", status), ("unclassified_reason", reason), capturedAt, uploadedAt,
    processedAt]

/-- The row of a cyclist, read as a cyclist. -/
def cyclist (r : LooseRow) : Except Failure LooseRow := do
  let box ← r.keepBox
  let confidence ← r.keepScore "confidence_score"
  let createdAt ← r.keepStamp "created_at"
  return [r.keep "id", r.keep "photo_id", box, confidence, createdAt]

/-- The row of a plate, read as a plate. -/
def plate (r : LooseRow) : Except Failure LooseRow := do
  let confidence ← r.keepScore "confidence_score"
  let correctedAt ← r.keepStamp "corrected_at"
  let createdAt ← r.keepStamp "created_at"
  return [r.keep "id", r.keep "detected_cyclist_id", r.keep "number", confidence,
    ("manually_corrected", .bool (isYes (r.column "manually_corrected"))), correctedAt, createdAt]

/-- The row of a colour, read as a colour. -/
def color (r : LooseRow) : Except Failure LooseRow := do
  let item ← member equipmentEnumeration (EquipmentItem.all.map EquipmentItem.text) (r.column "item_type")
  let density ← r.keepScore "density_percentage"
  let createdAt ← r.keepStamp "created_at"
  return [r.keep "id", r.keep "detected_cyclist_id", ("item_type", item), r.keep "color_name", r.keep "color_hex",
    density, createdAt]

/-! ## Views -/

/-- Reads members as a form. -/
def as {α : Type} (f : Form α) (fields : Fields) : Except Failure α := (f.read fields).toExcept .value

/-- The row of an event as it stands in a list. -/
def eventListItem (r : LooseRow) : Except Failure EventListItem :=
  as EventListItem.form [r.keep "id", r.keep "name", ("date", r.column "event_date"), r.keep "location",
    r.keep "status", r.keep "total_photos", r.keep "processed_photos"]

/-- The row of an event as it is shown by itself. -/
def eventDetail (r : LooseRow) : Except Failure EventDetail := do
  let createdAt ← r.keepStamp "created_at"
  let updatedAt ← r.keepStamp "updated_at"
  as EventDetail.form [r.keep "id", r.keep "name", ("date", r.column "event_date"), r.keep "location", r.keep "status",
    r.keep "total_photos", r.keep "processed_photos", createdAt, updatedAt]

/-- The row of a photo as it stands in a list. -/
def photoListItem (r : LooseRow) : Except Failure PhotoListItem := do
  let uploadedAt ← r.keepStamp "uploaded_at"
  as PhotoListItem.form [r.keep "id", r.keep "event_id", r.keep "filename", r.keep "storage_key", r.keep "status",
    r.keep "width", r.keep "height", uploadedAt]

/-- The row of a plate as it is shown. -/
def plateView (r : LooseRow) : Except Failure PlateView := do
  let confidence ← r.keepScore "confidence_score"
  as PlateView.form [r.keep "number", confidence,
    ("manually_corrected", .bool (isYes (r.column "manually_corrected")))]

/-- The row of a colour as it is shown. -/
def colorView (r : LooseRow) : Except Failure ColorView := do
  let density ← r.keepScore "density_percentage"
  as ColorView.form [r.keep "item_type", r.keep "color_name", r.keep "color_hex", density]

/-- The row of a cyclist with its plate and its colours as it is shown. -/
def cyclistView (r : LooseRow) : Except Failure CyclistView := do
  let box ← r.keepBox
  let confidence ← r.keepScore "confidence_score"
  let plate ← (r.row? "plate_number").mapM plateView
  let colors ← (r.rows "equipment_colors").mapM colorView
  as CyclistView.form [r.keep "id", box, confidence,
    ("plate_number", .ofOption PlateView.form.value plate),
    ("equipment_colors", .list (colors.map ColorView.form.value))]

/-- The row of a photo with its cyclists as it is shown by itself. -/
def photoDetail (r : LooseRow) : Except Failure PhotoDetail := do
  let fileSize ← r.keepInteger "file_size"
  let capturedAt ← r.keepStamp "captured_at"
  let uploadedAt ← r.keepStamp "uploaded_at"
  let processedAt ← r.keepStamp "processed_at"
  let cyclists ← (r.rows "detected_cyclists").mapM cyclistView
  as PhotoDetail.form [r.keep "id", r.keep "event_id", r.keep "filename", r.keep "storage_key", fileSize,
    r.keep "mime_type", r.keep "width", r.keep "height", r.keep "status", r.keep "unclassified_reason", capturedAt,
    uploadedAt, processedAt, ("detected_cyclists", .list (cyclists.map CyclistView.form.value))]

end LooseRow

/-! ## Rows of entities -/

/-- The row of a cyclist. -/
def Cyclist.row (c : Cyclist) : LooseRow :=
  [("id", .uuid c.id), ("photo_id", .uuid c.photoId), ("bounding_box", BoundingBox.value c.box),
   ("confidence_score", .float c.confidence), ("created_at", .stamp c.createdAt)]

/-- The row of a plate. -/
def Plate.row (p : Plate) : LooseRow :=
  [("id", .uuid p.id), ("detected_cyclist_id", .uuid p.cyclistId), ("number", .int p.number),
   ("confidence_score", .ofOption .float p.confidence), ("manually_corrected", .bool p.manuallyCorrected),
   ("corrected_at", .ofOption .stamp p.correctedAt), ("created_at", .stamp p.createdAt)]

/-- The row of a colour. -/
def EquipmentColor.row (c : EquipmentColor) : LooseRow :=
  [("id", .uuid c.id), ("detected_cyclist_id", .uuid c.cyclistId), ("item_type", .text c.item.text),
   ("color_name", .text c.name), ("color_hex", .text c.hex), ("density_percentage", .float c.density),
   ("created_at", .stamp c.createdAt)]

/-- The row of a cyclist with the rows of its plate and of its colours in it. -/
def Bundle.row (b : Bundle) : LooseRow :=
  b.cyclist.row ++ [("plate_number", .ofOption (fun (p : Plate) => .object p.row) b.plate),
    ("equipment_colors", .list (b.colors.map fun c => .object c.row))]

end RaceAlbum
