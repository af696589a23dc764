import RaceAlbum.Archive.LooseRow

/-!
# Loose detections

What was seen on a photo, reported without any check: values by name, of which nothing is known. The same entities are
made of it as of a checked report, with the values as they came; only what a rule looks at has to be of a kind that can
be looked at. Such entities are kept as the columns of their tables hold their values.
-/

namespace RaceAlbum

/-- Whether a value is smaller than an integer, if the two can be compared. -/
def Value.lessThan (v : Value) (n : Int) : Except Misfit Bool :=
  match v with
  | .int m => .ok (m < n)
  | .bool b => .ok ((if b then 1 else 0) < n)
  | .float x => .ok (x.lt (.ofInt n))
  | .decimal (.nan ..) => .error .unordered
  | .decimal (.infinity negative) => .ok negative
  | .decimal (.finite d) => .ok (d.lessThan n)
  | v => .error (.incomparable v.kindName "int")

/-- Whether a value is greater than an integer, where the two can be compared. -/
def Value.isGreaterThan (v : Value) (n : Int) : Bool :=
  match v with
  | .int m => n < m
  | .bool b => n < if b then 1 else 0
  | .float x => (Binary64.ofInt n).lt x
  | .decimal (.infinity negative) => !negative
  | .decimal (.finite d) => d.isGreaterThan n
  | _ => false

/-- Whether a value lies between two limits, if it can be compared with them. -/
def Value.isBetween (v : Value) (least most : Int) : Except Misfit Bool := do
  let below ← v.lessThan least
  return !(below || v.isGreaterThan most)

/-- A cyclist, as it is reported without a check. -/
abbrev LooseDetection := Fields

/-- A cyclist on a photo with the values as they were reported. -/
structure LooseCyclist where
  id : Uuid
  photoId : Uuid
  box : Fields
  confidence : Value
  createdAt : Stamp

/-- The plate of a cyclist with the values as they were reported. -/
structure LoosePlate where
  id : Uuid
  cyclistId : Uuid
  number : Value
  confidence : Value
  createdAt : Stamp

/-- The colour of a piece of a cyclist's equipment with the values as they were reported. -/
structure LooseColor where
  id : Uuid
  cyclistId : Uuid
  item : EquipmentItem
  name : Value
  hex : Value
  density : Value
  createdAt : Stamp

/-- A cyclist with its plate and its colours, made of a report without a check. -/
structure LooseBundle where
  cyclist : LooseCyclist
  plate : Option LoosePlate
  colors : List LooseColor

namespace LooseDetection

/-- Goes on only if a value lies between two limits. -/
def requireBetween (v : Value) (least most : Int) (r : Rule) : Program Unit := do
  let between ← Program.ofExcept (LooseRow.ofMisfit (v.isBetween least most))
  Program.require between r

/-- The piece of equipment that a value names. -/
def itemOf : Value → Except Failure EquipmentItem
  | .text s => EquipmentItem.ofName s
  | v => .error (.notAMember v equipmentEnumeration)

/-- A cyclist on a photo. -/
def cyclist (photoId : Uuid) (d : LooseDetection) : Program LooseCyclist := do
  let id ← Program.takeId
  let box ← Program.ofExcept (LooseRow.ofMisfit (LooseRow.column d "bounding_box").toDictionary)
  let now ← Program.readClock
  return ⟨id, photoId, box, LooseRow.column d "confidence_score", now⟩

/-- The plate of a cyclist. -/
def plate (cyclistId : Uuid) (p : Fields) : Program LoosePlate := do
  let number := LooseRow.column p "number"
  requireBetween number plateNumberMin plateNumberMax .plateNumberRange
  let id ← Program.takeId
  let now ← Program.readClock
  return ⟨id, cyclistId, number, LooseRow.column p "confidence_score", now⟩

/-- The colour of a piece of a cyclist's equipment. -/
def color (cyclistId : Uuid) (c : Fields) : Program LooseColor := do
  let density := LooseRow.column c "density_percentage"
  requireBetween density densityMin densityMax .densityRange
  let id ← Program.takeId
  let item ← Program.ofExcept (itemOf (LooseRow.column c "item_type"))
  let now ← Program.readClock
  return ⟨id, cyclistId, item, LooseRow.column c "color_name", LooseRow.column c "color_hex", density, now⟩

/-- A cyclist of a photo with its plate and its colours, made of what was reported. -/
def bundle (photoId : Uuid) (d : LooseDetection) : Program LooseBundle := do
  let cyclist ← cyclist photoId d
  let plate ← match LooseRow.row? d "plate_number" with
    | none => pure none
    | some p => some <$> plate cyclist.id p
  let colors ← Program.forAll (color cyclist.id) (LooseRow.rows d "colors")
  return ⟨cyclist, plate, colors⟩

end LooseDetection

/-! ## As rows -/

/-- The row of a cyclist. -/
def LooseCyclist.row (c : LooseCyclist) : LooseRow :=
  [("id", .uuid c.id), ("photo_id", .uuid c.photoId), ("bounding_box", .object c.box),
   ("confidence_score", c.confidence), ("created_at", .stamp c.createdAt)]

/-- The row of a plate. -/
def LoosePlate.row (p : LoosePlate) : LooseRow :=
  [("id", .uuid p.id), ("detected_cyclist_id", .uuid p.cyclistId), ("number", p.number),
   ("confidence_score", p.confidence), ("manually_corrected", .bool false), ("corrected_at", .null),
   ("created_at", .stamp p.createdAt)]

/-- The row of a colour. -/
def LooseColor.row (c : LooseColor) : LooseRow :=
  [("id", .uuid c.id), ("detected_cyclist_id", .uuid c.cyclistId), ("item_type", .text c.item.text),
   ("color_name", c.name), ("color_hex", c.hex), ("density_percentage", c.density), ("created_at", .stamp c.createdAt)]

/-! ## As they are kept -/

/-- The number that a column of scores keeps; nothing is kept as what is no number. -/
def keptScore : Value → Except Failure Binary64
  | .null => .ok .nan
  | v => LooseRow.ofMisfit v.toNumber

/-- The text that a column of texts keeps, where it keeps one. -/
def keptText (missing : Violation) : Value → Except Failure String
  | .text s => .ok s
  | .int n => .ok (intText n)
  | .bool b => .ok (if b then "1" else "0")
  | .float x => .ok x.text
  | _ => .error (.violation missing)

/-- The numbers of a box. -/
def keptBox (fields : Fields) : Except Failure BoundingBox :=
  fields.mapM fun (name, v) => (keptScore v).map fun x => (name, x)

/-- The cyclist as it is kept. -/
def LooseCyclist.kept (c : LooseCyclist) : Except Failure Cyclist := do
  let box ← keptBox c.box
  let confidence ← keptScore c.confidence
  return ⟨c.id, c.photoId, box, confidence, c.createdAt⟩

/-- The plate as it is kept. -/
def LoosePlate.kept (p : LoosePlate) : Except Failure Plate := do
  let number ← LooseRow.ofMisfit p.number.toInteger
  let confidence ← keptScore p.confidence
  return ⟨p.id, p.cyclistId, number, some confidence, false, none, p.createdAt⟩

/-- The colour as it is kept. -/
def LooseColor.kept (c : LooseColor) : Except Failure EquipmentColor := do
  let name ← keptText .missingColorName c.name
  let hex ← keptText .missingColorHex c.hex
  let density ← keptScore c.density
  return ⟨c.id, c.cyclistId, c.item, name, hex, density, c.createdAt⟩

/-- The bundle as it is kept, if the tables can hold its values. -/
def LooseBundle.kept (b : LooseBundle) : Except Failure Bundle := do
  let cyclist ← b.cyclist.kept
  let plate ← b.plate.mapM LoosePlate.kept
  let colors ← b.colors.mapM LooseColor.kept
  return ⟨cyclist, plate, colors⟩

end RaceAlbum
