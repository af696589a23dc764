import RaceAlbum.Detection.Loose
import RaceAlbum.Proofs.Program.Run
import RaceAlbum.Proofs.Schema.ReadBack

/-!
# Reports as they come

A report whose form was never checked is a dictionary of any values. Where its values are those of a detection, the rules look
at the same values as those of the detection and make the same bundle of them (`bundle_loose`): the two ways differ in nothing
but how much is known of what they are given.
-/

namespace RaceAlbum

open Program

/-- A plate that is reported, by the names of its values. -/
def PlateDetection.loose (p : PlateDetection) : Fields :=
  [("number", .int p.number), ("confidence_score", .ofOption .float p.confidence)]

/-- A colour that is reported, by the names of its values. -/
def ColorDetection.loose (c : ColorDetection) : Fields :=
  [("item_type", .text c.item), ("color_name", .text c.name), ("color_hex", .text c.hex),
   ("density_percentage", .float c.density)]

/-- A detection by the names of its values, as it comes where no form was checked. -/
def Detection.loose (d : Detection) : LooseDetection :=
  [("bounding_box", BoundingBox.value d.box), ("confidence_score", .float d.confidence),
   ("plate_number", .ofOption (fun (p : PlateDetection) => .object p.loose) d.plate),
   ("colors", .list (d.colors.map fun c => .object c.loose))]

/-- A cyclist with its values as they were reported. -/
def Cyclist.loose (c : Cyclist) : LooseCyclist :=
  ⟨c.id, c.photoId, c.box.map fun (name, x) => (name, .float x), .float c.confidence, c.createdAt⟩

/-- A plate with its values as they were reported. -/
def Plate.loose (p : Plate) : LoosePlate := ⟨p.id, p.cyclistId, .int p.number, .ofOption .float p.confidence, p.createdAt⟩

/-- A colour with its values as they were reported. -/
def EquipmentColor.loose (c : EquipmentColor) : LooseColor :=
  ⟨c.id, c.cyclistId, c.item, .text c.name, .text c.hex, .float c.density, c.createdAt⟩

/-- A bundle with its values as they were reported. -/
def Bundle.loose (b : Bundle) : LooseBundle :=
  ⟨b.cyclist.loose, b.plate.map Plate.loose, b.colors.map EquipmentColor.loose⟩

@[simp] theorem Cyclist.loose_id (c : Cyclist) : c.loose.id = c.id := rfl

/-- What is made of each item and then changed is changed for all of them. -/
theorem forAll_map {α β γ δ : Type} {f : α → Program β} {part : γ → α} {make : γ → Program δ} {change : δ → β}
    (h : ∀ c, f (part c) = change <$> make c) (cs : List γ) :
    forAll f (cs.map part) = List.map change <$> forAll make cs := by
  induction cs with
  | nil => rfl
  | cons c cs ih => simp [forAll, h, ih]

/-- A cyclist of a checked detection is created as of one whose values were not checked. -/
theorem cyclist_loose (photoId : Uuid) (d : Detection) :
    LooseDetection.cyclist photoId d.loose = Cyclist.loose <$> Cyclist.create photoId d.box d.confidence := by
  have hbox : LooseRow.ofMisfit (LooseRow.column d.loose "bounding_box").toDictionary =
      .ok (d.box.map fun (name, x) => (name, .float x)) := rfl
  unfold LooseDetection.cyclist Cyclist.create
  rw [hbox]
  simp only [map_bind, map_pure]
  rfl

/-- So is a plate, whose number is compared as the number that it is. -/
theorem plate_loose (cyclistId : Uuid) (p : PlateDetection) :
    LooseDetection.plate cyclistId p.loose = Plate.loose <$> Plate.create cyclistId p := by
  unfold LooseDetection.plate Plate.create
  simp only [map_bind, map_pure]
  rfl

/-- So is a colour, whose share is compared as the number that it is. -/
theorem color_loose (cyclistId : Uuid) (c : ColorDetection) :
    LooseDetection.color cyclistId c.loose = EquipmentColor.loose <$> EquipmentColor.create cyclistId c := by
  unfold LooseDetection.color EquipmentColor.create
  simp only [map_bind, map_pure]
  rfl

/-- Where no form was checked, the rules look at the same values and make the same bundle of them. -/
theorem bundle_loose (photoId : Uuid) (d : Detection) :
    LooseDetection.bundle photoId d.loose = Bundle.loose <$> Bundle.ofDetection photoId d := by
  have hrow : LooseRow.row? d.loose "plate_number" = d.plate.map PlateDetection.loose := LooseRow.row?_of_column rfl
  have hrows : LooseRow.rows d.loose "colors" = d.colors.map ColorDetection.loose := LooseRow.rows_of_column rfl
  unfold LooseDetection.bundle Bundle.ofDetection
  rw [hrow, hrows]
  simp only [cyclist_loose, map_bind, bind_map_left, Cyclist.loose_id]
  refine congrArg (_ >>= ·) (funext fun c => ?_)
  rw [forAll_map (color_loose c.id)]
  cases d.plate with
  | none =>
    simp only [Option.map_none, pure_bind, bind_map_left, map_bind, map_pure]
    rfl
  | some p =>
    simp only [Option.map_some, plate_loose, bind_map_left, map_bind, map_pure]
    rfl

end RaceAlbum
