import RaceAlbum.Archive.LooseRow
import RaceAlbum.Proofs.Schema.Accepted

/-!
# Forms read what they write

A reader reads back what a writer writes if it gives every value again (`Reader.ReadsBack`). This passes from items to lists,
to what may be missing and to dictionaries, and so to the forms in which plates, colours and cyclists are shown. A row gives
again the rows that its columns hold.
-/

namespace RaceAlbum

variable {α : Type} {r : Reader α} {write : α → Value}

/-- A reader gives again whatever was written. -/
def Reader.ReadsBack (r : Reader α) (write : α → Value) : Prop := ∀ a, r (write a) = .ok a

/-- What is there is read as it stands. -/
theorem Reader.optional_of_ne_null {v : Value} (hv : v ≠ .null) : Reader.optional r v = (r v).map some := by
  unfold Reader.optional
  split
  · exact absurd rfl hv
  · rfl

namespace Reader.ReadsBack

/-- What may be missing is read back, if what is there is never written as nothing. -/
theorem optional (h : r.ReadsBack write) (hnull : ∀ a, write a ≠ .null) :
    (Reader.optional r).ReadsBack (Value.ofOption write) := by
  intro a?
  cases a? with
  | none => rfl
  | some a =>
    change Reader.optional r (write a) = .ok (some a)
    rw [optional_of_ne_null (hnull a), h a]
    rfl

/-- A list is read back, item by item. -/
theorem list (h : r.ReadsBack write) : (Reader.list r).ReadsBack fun as => .list (as.map write) := by
  intro as
  refine list_eq_ok_iff.2 ⟨_, rfl, ?_⟩
  rw [List.map_map]
  exact List.map_congr_left fun a _ => h a

/-- A dictionary is read back, member by member. -/
theorem dictionary (h : r.ReadsBack write) :
    (Reader.dictionary r).ReadsBack fun members => .object (members.map fun (name, a) => (name, write a)) := by
  intro members
  refine dictionary_eq_ok_iff.2 ⟨_, rfl, ?_⟩
  rw [List.map_map]
  exact List.map_congr_left fun (name, a) _ => congrArg (name, ·) (h a)

end Reader.ReadsBack

namespace MemberName

variable {n : MemberName} {fields : Fields} {name : String} {v : Value} {a missing : α}

/-- A member that must be there is read where it stands. -/
theorem required_of_find? (hfind : n.find? fields = some (name, v)) (hv : r v = .ok a) : n.required r fields = .ok a :=
  required_eq_ok_iff.2 ⟨name, v, hfind, hv⟩

/-- A member that may be missing is read where it stands. -/
theorem withDefault_of_find? (hfind : n.find? fields = some (name, v)) (hv : r v = .ok a) :
    n.withDefault r missing fields = .ok a :=
  withDefault_eq_ok_iff.2 (.inr ⟨name, v, hfind, hv⟩)

end MemberName

namespace LooseRow

variable {row : LooseRow} {column : String} {part : α → LooseRow}

/-- The row that a column holds, if it holds one. -/
theorem row?_of_column {a? : Option α} (h : row.column column = .ofOption (fun a => .object (part a)) a?) :
    row.row? column = a?.map part := by
  rw [row?, h]
  cases a? with
  | none => rfl
  | some a => rfl

/-- The rows that a column holds. -/
theorem rows_of_column {as : List α} (h : row.column column = .list (as.map fun a => .object (part a))) :
    row.rows column = as.map part := by
  rw [rows, h]
  dsimp only
  rw [List.filterMap_map]
  exact congrFun List.filterMap_eq_map' as

end LooseRow

/-! ## Numbers -/

theorem float_readsBack : Reader.number.ReadsBack .float := fun _ => rfl

theorem box_readsBack : (Reader.dictionary Reader.number).ReadsBack BoundingBox.value := float_readsBack.dictionary

theorem score?_readsBack : (Reader.optional Reader.number).ReadsBack (Value.ofOption .float) :=
  float_readsBack.optional nofun

/-! ## What is shown of a cyclist -/

variable {fields : Fields} {name₁ name₂ name₃ name₄ name₅ : String}

/-- A plate is read from its members under either of their names. -/
theorem plateView_read {p : PlateView} (hnumber : MemberName.number.find? fields = some (name₁, .int p.number))
    (hconfidence : MemberName.confidenceScore.find? fields = some (name₂, .ofOption .float p.confidence))
    (hcorrected : MemberName.manuallyCorrected.find? fields = some (name₃, .bool p.manuallyCorrected)) :
    PlateView.form.read fields = .ok p := by
  have hnumber : MemberName.number.required Reader.integer fields = .ok p.number :=
    MemberName.required_of_find? hnumber rfl
  have hconfidence : MemberName.confidenceScore.withDefault (Reader.optional Reader.number) none fields =
      .ok p.confidence := MemberName.withDefault_of_find? hconfidence (score?_readsBack p.confidence)
  have hcorrected : MemberName.manuallyCorrected.withDefault Reader.boolean false fields = .ok p.manuallyCorrected :=
    MemberName.withDefault_of_find? hcorrected rfl
  change PlateView.mk <$> _ <*> _ <*> _ = Checked.ok p
  rw [hnumber, hconfidence, hcorrected]
  rfl

/-- A colour is read from its members under either of their names. -/
theorem colorView_read {c : ColorView} (hitem : MemberName.itemType.find? fields = some (name₁, .text c.item))
    (hname : MemberName.colorName.find? fields = some (name₂, .text c.name))
    (hhex : MemberName.colorHex.find? fields = some (name₃, .text c.hex))
    (hdensity : MemberName.densityPercentage.find? fields = some (name₄, .float c.density)) :
    ColorView.form.read fields = .ok c := by
  have hitem : MemberName.itemType.required Reader.text fields = .ok c.item := MemberName.required_of_find? hitem rfl
  have hname : MemberName.colorName.required Reader.text fields = .ok c.name := MemberName.required_of_find? hname rfl
  have hhex : MemberName.colorHex.required Reader.text fields = .ok c.hex := MemberName.required_of_find? hhex rfl
  have hdensity : MemberName.densityPercentage.required Reader.number fields = .ok c.density :=
    MemberName.required_of_find? hdensity rfl
  change ColorView.mk <$> _ <*> _ <*> _ <*> _ = Checked.ok c
  rw [hitem, hname, hhex, hdensity]
  rfl

theorem plateView_readsBack : PlateView.form.reader.ReadsBack PlateView.form.value := fun _ => plateView_read rfl rfl rfl

theorem colorView_readsBack : ColorView.form.reader.ReadsBack ColorView.form.value := fun _ =>
  colorView_read rfl rfl rfl rfl

/-- A cyclist is read from its members under either of their names. -/
theorem cyclistView_read {c : CyclistView} (hid : MemberName.id.find? fields = some (name₁, .uuid c.id))
    (hbox : MemberName.boundingBox.find? fields = some (name₂, BoundingBox.value c.box))
    (hconfidence : MemberName.confidenceScore.find? fields = some (name₃, .float c.confidence))
    (hplate : MemberName.plateNumber.find? fields = some (name₄, .ofOption PlateView.form.value c.plate))
    (hcolors : MemberName.equipmentColors.find? fields = some (name₅, .list (c.colors.map ColorView.form.value))) :
    CyclistView.form.read fields = .ok c := by
  have hid : MemberName.id.required Reader.uuid fields = .ok c.id := MemberName.required_of_find? hid rfl
  have hbox : MemberName.boundingBox.required (Reader.dictionary Reader.number) fields = .ok c.box :=
    MemberName.required_of_find? hbox (box_readsBack c.box)
  have hconfidence : MemberName.confidenceScore.required Reader.number fields = .ok c.confidence :=
    MemberName.required_of_find? hconfidence rfl
  have hplate : MemberName.plateNumber.withDefault (Reader.optional PlateView.form.reader) none fields = .ok c.plate :=
    MemberName.withDefault_of_find? hplate (plateView_readsBack.optional nofun c.plate)
  have hcolors : MemberName.equipmentColors.withDefault (Reader.list ColorView.form.reader) [] fields = .ok c.colors :=
    MemberName.withDefault_of_find? hcolors (colorView_readsBack.list c.colors)
  change CyclistView.mk <$> _ <*> _ <*> _ <*> _ <*> _ = Checked.ok c
  rw [hid, hbox, hconfidence, hplate, hcolors]
  rfl

end RaceAlbum
