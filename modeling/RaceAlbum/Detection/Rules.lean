import RaceAlbum.Program

/-!
# The rules of detections

How the cyclists, plates and colours of a photo come to be. The number of a plate and the share of a colour have ranges
of their own, whatever was checked before; a range is left only by a number that lies on one side of it.
-/

namespace RaceAlbum

/-- The name of the enumeration of equipment, in messages. -/
def equipmentEnumeration : String := "EquipmentItem"

/-- A cyclist on a photo. -/
def Cyclist.create (photoId : Uuid) (box : BoundingBox) (confidence : Binary64) : Program Cyclist := do
  let id ← Program.takeId
  let now ← Program.readClock
  return ⟨id, photoId, box, confidence, now⟩

/-- The plate of a cyclist. -/
def Plate.create (cyclistId : Uuid) (p : PlateDetection) : Program Plate := do
  Program.require (!(p.number < plateNumberMin || plateNumberMax < p.number)) .plateNumberRange
  let id ← Program.takeId
  let now ← Program.readClock
  return ⟨id, cyclistId, p.number, p.confidence, false, none, now⟩

/-- The piece of equipment of a name. -/
def EquipmentItem.ofName (name : String) : Except Failure EquipmentItem :=
  match EquipmentItem.ofText? name with
  | some item => .ok item
  | none => .error (.notAMember (.text name) equipmentEnumeration)

/-- The colour of a piece of a cyclist's equipment. -/
def EquipmentColor.create (cyclistId : Uuid) (c : ColorDetection) : Program EquipmentColor := do
  Program.require (!(c.density.lt (.ofInt densityMin) || (Binary64.ofInt densityMax).lt c.density)) .densityRange
  let id ← Program.takeId
  let item ← Program.ofExcept (EquipmentItem.ofName c.item)
  let now ← Program.readClock
  return ⟨id, cyclistId, item, c.name, c.hex, c.density, now⟩

/-- A cyclist of a photo with its plate and its colours, made of what was reported. -/
def Bundle.ofDetection (photoId : Uuid) (d : Detection) : Program Bundle := do
  let cyclist ← Cyclist.create photoId d.box d.confidence
  let plate ← match d.plate with
    | none => pure none
    | some p => some <$> Plate.create cyclist.id p
  let colors ← Program.forAll (EquipmentColor.create cyclist.id) d.colors
  return ⟨cyclist, plate, colors⟩

end RaceAlbum
