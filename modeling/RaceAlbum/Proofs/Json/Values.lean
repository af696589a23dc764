import RaceAlbum.Json.Value

/-!
# Values and their parts

A value is JSON if it holds no scalar of a type of its own, and it is finite if all numbers in it are: both are told part by
part. Lists and objects are carried part by part as well.
-/

namespace RaceAlbum

namespace Value

variable {vs : List Value} {fields : Fields}

/-! ## JSON -/

mutual

/-- Whether a value is JSON: it holds no identifier, date, stamp or decimal. -/
def isJson : Value → Bool
  | uuid _ | date _ | stamp _ | decimal _ => false
  | list vs => listIsJson vs
  | object fields => fieldsAreJson fields
  | _ => true

/-- Whether the items of a list are JSON. -/
def listIsJson : List Value → Bool
  | [] => true
  | v :: vs => isJson v && listIsJson vs

/-- Whether the members of an object are JSON. -/
def fieldsAreJson : List (String × Value) → Bool
  | [] => true
  | (_, v) :: fields => isJson v && fieldsAreJson fields

end

/-- A list is JSON if its items are. -/
theorem listIsJson_iff : listIsJson vs = true ↔ ∀ v ∈ vs, v.isJson = true := by
  induction vs with
  | nil => simp [listIsJson]
  | cons v vs ih => simp [listIsJson, ih]

/-- An object is JSON if what its members hold is. -/
theorem fieldsAreJson_iff : fieldsAreJson fields = true ↔ ∀ f ∈ fields, f.2.isJson = true := by
  induction fields with
  | nil => simp [fieldsAreJson]
  | cons f fields ih => simp [fieldsAreJson, ih]

/-! ## Finite numbers -/

/-- A list is finite if its items are. -/
theorem listIsFinite_iff : listIsFinite vs = true ↔ ∀ v ∈ vs, v.isFinite = true := by
  induction vs with
  | nil => simp [listIsFinite]
  | cons v vs ih => simp [listIsFinite, ih]

/-- An object is finite if what its members hold is. -/
theorem fieldsAreFinite_iff : fieldsAreFinite fields = true ↔ ∀ f ∈ fields, f.2.isFinite = true := by
  induction fields with
  | nil => simp [fieldsAreFinite]
  | cons f fields ih => simp [fieldsAreFinite, ih]

/-! ## What an answer carries -/

/-- A list is carried item by item. -/
theorem wireList_eq_map (vs : List Value) : wireList vs = vs.map wire := by
  induction vs with
  | nil => rfl
  | cons v vs ih => rw [wireList, ih, List.map_cons]

/-- The members of an object are carried one by one, under their names. -/
theorem wireFields_eq_map (fields : Fields) : wireFields fields = fields.map fun f => (f.1, f.2.wire) := by
  induction fields with
  | nil => rfl
  | cons f fields ih => rw [wireFields, ih, List.map_cons]

/-- The member of a name that is carried is what is carried of the member. -/
theorem find?_wireFields (fields : Fields) (name : String) :
    Fields.find? (wireFields fields) name = (fields.find? name).map wire := by
  induction fields with
  | nil => rfl
  | cons f fields ih =>
    obtain ⟨n, v⟩ := f
    simp only [Fields.find?, wireFields, List.lookup_cons] at ih ⊢
    split
    · rfl
    · exact ih

end Value

/-- A member that is found is one of the members. -/
theorem Fields.mem_of_find? {fields : Fields} {name : String} {v : Value} (h : fields.find? name = some v) :
    (name, v) ∈ fields := by
  induction fields with
  | nil => cases h
  | cons f fields ih =>
    obtain ⟨n, w⟩ := f
    rw [find?, List.lookup_cons] at h
    split at h
    · rename_i heq
      rw [beq_iff_eq] at heq
      cases h
      exact heq ▸ List.mem_cons_self
    · exact List.mem_cons_of_mem _ (ih h)

end RaceAlbum
