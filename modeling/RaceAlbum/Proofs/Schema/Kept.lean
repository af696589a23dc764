import RaceAlbum.Event.Form
import RaceAlbum.Photo.Form
import RaceAlbum.Proofs.Json.Values
import RaceAlbum.Proofs.Schema.ReadBack
import RaceAlbum.Proofs.Schema.WrittenTexts

/-!
# Readers keep what they read

What was read of JSON is handed out in one of two guises: with its scalars as they are, or as an answer carries it. A reader
keeps what it reads if it reads the same again in both (`Reader.Keeps`). All readers that forms use do, however lenient they are
about what they read first, as long as no number is infinite or none at all; and what the readers of parts keep, those of lists,
of dictionaries and of members keep.
-/

namespace RaceAlbum

variable {α : Type}

/-! ## Guises -/

/-- The guises in which a value is handed out. -/
inductive Guise where
  | typed
  | wire

namespace Value

/-- The value in a guise: with its scalars as they are, or as an answer carries it. -/
def inGuise (v : Value) : Guise → Value
  | .typed => v
  | .wire => v.wire

variable (g : Guise)

/-- Nothing is nothing in both guises. -/
@[simp] theorem inGuise_null : null.inGuise g = null := by cases g <;> rfl

/-- A list is handed out item by item. -/
@[simp] theorem inGuise_list (vs : List Value) : (list vs).inGuise g = list (vs.map fun v => v.inGuise g) := by
  cases g with
  | typed => simp [inGuise]
  | wire => simp [inGuise, wire, wireList_eq_map]

/-- Members in a guise. -/
def fieldsInGuise (fields : Fields) (g : Guise) : Fields := fields.map fun f => (f.1, f.2.inGuise g)

/-- An object is handed out member by member. -/
@[simp] theorem inGuise_object (fields : Fields) : (object fields).inGuise g = object (fieldsInGuise fields g) := by
  cases g with
  | typed => simp [inGuise, fieldsInGuise]
  | wire => simp [inGuise, wire, wireFields_eq_map, fieldsInGuise]

/-- A member is found in both guises of an object. -/
theorem find?_fieldsInGuise (fields : Fields) (name : String) :
    Fields.find? (fieldsInGuise fields g) name = (fields.find? name).map fun v => v.inGuise g := by
  cases g with
  | typed => simp [inGuise, fieldsInGuise]
  | wire =>
    have hfields : fieldsInGuise fields .wire = wireFields fields := (wireFields_eq_map fields).symm
    rw [hfields]
    exact find?_wireFields fields name

end Value

/-! ## Readers of scalars -/

/-- A reader reads again what it has read of JSON, in whichever guise it is handed out, if all numbers in it are finite. -/
def Reader.Keeps (r : Reader α) (write : α → Value) : Prop :=
  ∀ ⦃v a⦄, v.isJson = true → r v = .ok a → (write a).isFinite = true → ∀ g, r ((write a).inGuise g) = .ok a

namespace Reader.Keeps

variable {r : Reader α} {write : α → Value}

/-- A further check that changes nothing is passed again. -/
theorem andThen {check : α → Checked α} (h : r.Keeps write) (hcheck : ∀ a b, check a = .ok b → b = a) :
    Reader.Keeps (fun v => (r v).andThen check) write := by
  intro v b hjson hread hfinite g
  obtain ⟨a, hv, hpassed⟩ := Checked.andThen_eq_ok_iff.1 hread
  obtain rfl := hcheck a b hpassed
  exact Checked.andThen_eq_ok_iff.2 ⟨b, h hjson hv hfinite g, hpassed⟩

end Reader.Keeps

namespace Reader

end Reader

namespace Reader.Keeps

variable {r : Reader α} {write : α → Value}

/-- What may be missing is kept, if what is there is never read of nothing. -/
theorem optional (h : r.Keeps write) (hnull : ∀ a, r .null ≠ .ok a) :
    (Reader.optional r).Keeps (Value.ofOption write) := by
  intro v a? hjson hread hfinite g
  cases a? with
  | none => simp [Value.ofOption, Reader.optional]
  | some a =>
    have hv : v ≠ .null := by
      rintro rfl
      cases hread
    rw [optional_of_ne_null hv] at hread
    obtain ⟨b, hb, hab⟩ := Checked.map_eq_ok_iff.1 hread
    cases hab
    have hagain : r ((write a).inGuise g) = .ok a := h hjson hb hfinite g
    -- nothing is not what is handed out of it, since it would have to be read of nothing
    have hne : (write a).inGuise g ≠ .null := fun heq => hnull a (heq ▸ hagain)
    rw [Value.ofOption, optional_of_ne_null hne, hagain]
    rfl

/-- A list is kept, item by item. -/
theorem list (h : r.Keeps write) : (Reader.list r).Keeps fun as => .list (as.map write) := by
  intro v as hjson hread hfinite g
  obtain ⟨vs, rfl, hitems⟩ := list_eq_ok_iff.1 hread
  rw [Value.inGuise_list]
  refine list_eq_ok_iff.2 ⟨_, rfl, ?_⟩
  rw [List.map_map, List.map_map]
  refine List.map_congr_left fun a ha => ?_
  obtain ⟨w, hw, hwa⟩ := List.mem_map.1 (hitems ▸ List.mem_map_of_mem ha)
  exact h (Value.listIsJson_iff.1 hjson w hw) hwa (Value.listIsFinite_iff.1 hfinite _ (List.mem_map_of_mem ha)) g

/-- A dictionary is kept, member by member. -/
theorem dictionary (h : r.Keeps write) :
    (Reader.dictionary r).Keeps fun members => .object (members.map fun (name, a) => (name, write a)) := by
  intro v members hjson hread hfinite g
  obtain ⟨fields, rfl, hmembers⟩ := dictionary_eq_ok_iff.1 hread
  rw [Value.inGuise_object]
  refine dictionary_eq_ok_iff.2 ⟨_, rfl, ?_⟩
  rw [Value.fieldsInGuise, List.map_map, List.map_map]
  refine List.map_congr_left fun (name, a) ha => congrArg (name, ·) ?_
  obtain ⟨f, hf, hfa⟩ := List.mem_map.1 (hmembers ▸ List.mem_map_of_mem ha)
  have hread : r f.2 = .ok a := congrArg Prod.snd hfa
  exact h (Value.fieldsAreJson_iff.1 hjson f hf) hread
    (Value.fieldsAreFinite_iff.1 hfinite _ (List.mem_map_of_mem ha)) g

end Reader.Keeps

/-! ## Members and forms -/

/-- A member that is found under either name is one of the members. -/
theorem MemberName.mem_of_find? {n : MemberName} {fields : Fields} {name : String} {v : Value}
    (h : n.find? fields = some (name, v)) : (name, v) ∈ fields := by
  unfold find? at h
  split at h
  · rename_i hwire
    cases h
    exact Fields.mem_of_find? hwire
  · obtain ⟨w, hw, hname⟩ := Option.map_eq_some_iff.1 h
    cases hname
    exact Fields.mem_of_find? hw

/-- A member that stands under the name that messages use is found there, in both guises. -/
theorem MemberName.find?_inGuise {n : MemberName} {fields : Fields} {v : Value} (h : fields.find? n.wire = some v)
    (g : Guise) : n.find? (Value.fieldsInGuise fields g) = some (n.wire, v.inGuise g) := by
  rw [find?, Value.find?_fieldsInGuise, h]
  rfl

/-- Members of JSON, and what is written of them: all numbers in it are finite. -/
structure Fields.Dumped (fields written : Fields) : Prop where
  isJson : ∀ f ∈ fields, f.2.isJson = true
  isFinite : ∀ f ∈ written, f.2.isFinite = true

namespace Fields.Dumped

variable {r : Reader α} {write : α → Value} {fields written : Fields} {n : MemberName} {name : String} {v : Value}
  {a missing : α}

/-- A member that was found is read again. -/
theorem again (h : fields.Dumped written) (hr : r.Keeps write) (hfound : n.find? fields = some (name, v))
    (hv : r v = .ok a) (hwritten : written.find? n.wire = some (write a)) (g : Guise) :
    r ((write a).inGuise g) = .ok a :=
  hr (h.isJson _ (MemberName.mem_of_find? hfound)) hv (h.isFinite _ (mem_of_find? hwritten)) g

/-- A member that must be there is read again where it is written. -/
theorem required (h : fields.Dumped written) (hr : r.Keeps write) (hread : n.required r fields = .ok a)
    (hwritten : written.find? n.wire = some (write a)) (g : Guise) :
    n.required r (Value.fieldsInGuise written g) = .ok a := by
  obtain ⟨name, v, hfound, hv⟩ := MemberName.required_eq_ok_iff.1 hread
  exact MemberName.required_of_find? (MemberName.find?_inGuise hwritten g) (h.again hr hfound hv hwritten g)

/-- A member that may be missing is always written, and read again where it is. -/
theorem withDefault (h : fields.Dumped written) (hr : r.Keeps write)
    (hmissing : ∀ g, r ((write missing).inGuise g) = .ok missing) (hread : n.withDefault r missing fields = .ok a)
    (hwritten : written.find? n.wire = some (write a)) (g : Guise) :
    n.withDefault r missing (Value.fieldsInGuise written g) = .ok a := by
  refine MemberName.withDefault_of_find? (MemberName.find?_inGuise hwritten g) ?_
  rcases MemberName.withDefault_eq_ok_iff.1 hread with ⟨-, rfl⟩ | ⟨name, v, hfound, hv⟩
  · exact hmissing g
  · exact h.again hr hfound hv hwritten g

/-- A member that may be missing or empty is written as nothing then, and read again as nothing. -/
theorem optional (h : fields.Dumped written) (hr : r.Keeps write) (hnull : ∀ a, r .null ≠ .ok a) {a? : Option α}
    (hread : n.withDefault (Reader.optional r) none fields = .ok a?)
    (hwritten : written.find? n.wire = some (.ofOption write a?)) (g : Guise) :
    n.withDefault (Reader.optional r) none (Value.fieldsInGuise written g) = .ok a? :=
  h.withDefault (hr.optional hnull) (fun g => by cases g <;> rfl) hread hwritten g

/-- A list that may be missing is written as an empty one then. -/
theorem list (h : fields.Dumped written) (hr : r.Keeps write) {as : List α}
    (hread : n.withDefault (Reader.list r) [] fields = .ok as)
    (hwritten : written.find? n.wire = some (.list (as.map write))) (g : Guise) :
    n.withDefault (Reader.list r) [] (Value.fieldsInGuise written g) = .ok as :=
  h.withDefault hr.list (fun g => by cases g <;> rfl) hread hwritten g

end Fields.Dumped

/-- A form reads again what it has read of JSON, wherever the members that it writes stand. -/
def Form.Keeps (f : Form α) : Prop :=
  ∀ ⦃fields written : Fields⦄ ⦃a⦄, fields.Dumped written → f.read fields = .ok a →
    (∀ name v, (f.write a).find? name = some v → written.find? name = some v) →
    ∀ g, f.read (Value.fieldsInGuise written g) = .ok a

/-- The reader of a form keeps what the form keeps. -/
theorem Form.Keeps.reader {f : Form α} (h : f.Keeps) : f.reader.Keeps f.value := by
  intro v a hjson hread hfinite g
  cases v with
  | object fields =>
    have hdumped : Fields.Dumped fields (f.write a) := ⟨Value.fieldsAreJson_iff.1 hjson, Value.fieldsAreFinite_iff.1 hfinite⟩
    rw [value, Value.inGuise_object]
    exact h hdumped hread (fun _ _ hfind => hfind) g
  | _ => cases hread

end RaceAlbum
