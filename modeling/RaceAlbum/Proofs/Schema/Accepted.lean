import Mathlib.Tactic.Simproc.ExistsAndEq
import RaceAlbum.Schema.Scalar

/-!
# What was read

A check that is passed was passed in all its parts. So what a reader gives comes from readers of its parts, and what it says
about a part holds of the result.
-/

namespace RaceAlbum

variable {α β : Type}

namespace Checked

theorem map_eq_ok_iff {f : α → β} {c : Checked α} {b : β} : f <$> c = ok b ↔ ∃ a, c = ok a ∧ f a = b := by
  change map f c = ok b ↔ _
  cases c <;> simp [map]

/-- Both parts of a joined check are passed. -/
theorem seq_eq_ok_iff {f : Checked (α → β)} {c : Checked α} {b : β} :
    f <*> c = ok b ↔ ∃ g a, f = ok g ∧ c = ok a ∧ g a = b := by
  change both f c = ok b ↔ _
  cases f <;> cases c <;> simp [both]

@[simp] theorem under_eq_ok_iff {step : PathStep} {c : Checked α} {a : α} : c.under step = ok a ↔ c = ok a := by
  cases c <;> simp [under]

theorem andThen_eq_ok_iff {c : Checked α} {f : α → Checked β} {b : β} :
    c.andThen f = ok b ↔ ∃ a, c = ok a ∧ f a = ok b := by
  cases c <;> simp [andThen]

/-- All checks of a list are passed. -/
theorem sequence_eq_ok_iff {cs : List (Checked α)} {as : List α} : sequence cs = ok as ↔ cs = as.map ok := by
  induction cs generalizing as with
  | nil => cases as <;> simp [sequence]
  | cons c cs ih =>
    change map List.cons c <*> sequence cs = ok as ↔ _
    rw [seq_eq_ok_iff]
    constructor
    · rintro ⟨g, bs, hg, hbs, rfl⟩
      obtain ⟨b, rfl, rfl⟩ := map_eq_ok_iff.1 hg
      rw [ih.1 hbs, List.map_cons]
    · intro has
      obtain ⟨b, bs, rfl, rfl, rfl⟩ := List.map_eq_cons_iff.1 has.symm
      exact ⟨List.cons b, bs, rfl, ih.2 rfl, rfl⟩

end Checked

/-- Whether a check is passed with a given result. -/
def Checked.gives [DecidableEq α] (c : Checked α) (a : α) : Bool := match c with
  | .ok b => decide (b = a)
  | _ => false

theorem Checked.eq_ok_of_gives [DecidableEq α] {c : Checked α} {a : α} (h : c.gives a = true) : c = ok a := by
  unfold gives at h
  split at h
  · rw [of_decide_eq_true h]
  · cases h

namespace MemberName

variable {n : MemberName} {r : Reader α} {fields : Fields} {a missing : α}

/-- A member that must be there is read where it stands. -/
theorem required_eq_ok_iff : n.required r fields = .ok a ↔ ∃ name v, n.find? fields = some (name, v) ∧ r v = .ok a := by
  unfold required
  cases n.find? fields with
  | none => simp
  | some found => simp [Prod.ext_iff]

/-- A member that may be missing is read where it stands, or has the value that stands for that. -/
theorem withDefault_eq_ok_iff : n.withDefault r missing fields = .ok a ↔
    (n.find? fields = none ∧ a = missing) ∨ ∃ name v, n.find? fields = some (name, v) ∧ r v = .ok a := by
  unfold withDefault
  cases n.find? fields with
  | none => simp [eq_comm]
  | some found => simp [Prod.ext_iff]

/-- A member that must be there was read from some value. -/
theorem required_ok (h : n.required r fields = .ok a) : ∃ v, r v = .ok a := by
  obtain ⟨_, v, -, hv⟩ := required_eq_ok_iff.1 h
  exact ⟨v, hv⟩

/-- A member that may be missing has the value that stands for that, or it was read from some value. -/
theorem withDefault_ok (h : n.withDefault r missing fields = .ok a) : a = missing ∨ ∃ v, r v = .ok a := by
  rcases withDefault_eq_ok_iff.1 h with ⟨-, ha⟩ | ⟨_, v, -, hv⟩
  · exact .inl ha
  · exact .inr ⟨v, hv⟩

end MemberName

/-- What a form gives was read from some members. -/
theorem Form.reader_ok {f : Form α} {v : Value} {a : α} (h : f.reader v = .ok a) : ∃ fields, f.read fields = .ok a := by
  unfold reader at h
  split at h
  · exact ⟨_, h⟩
  · cases h

/-- A number that lies between two integers. -/
def Binary64.Between (least most : Int) (x : Binary64) : Prop := (ofInt least).le x = true ∧ x.le (ofInt most) = true

/-- Whether a number lies between two integers can be checked. -/
instance (least most : Int) (x : Binary64) : Decidable (x.Between least most) := inferInstanceAs (Decidable (_ ∧ _))

namespace Reader

/-- What is there was read from some value. -/
theorem optional_ok {r : Reader α} {v : Value} {a : α} (h : optional r v = .ok (some a)) : ∃ v, r v = .ok a := by
  unfold optional at h
  split at h
  · cases h
  · obtain ⟨b, hb, hab⟩ := Checked.map_eq_ok_iff.1 h
    cases hab
    exact ⟨_, hb⟩

/-- A list is read item by item. -/
theorem list_eq_ok_iff {r : Reader α} {v : Value} {as : List α} :
    list r v = .ok as ↔ ∃ vs, v = .list vs ∧ vs.map r = as.map .ok := by
  have hitems (vs : List Value) :
      (vs.mapIdx fun i v => (r v).under (.index i)) = as.map .ok ↔ vs.map r = as.map .ok := by
    simp only [List.ext_getElem_iff, List.length_mapIdx, List.length_map, List.getElem_mapIdx, List.getElem_map,
      Checked.under_eq_ok_iff]
  cases v with
  | list vs => simp [list, Checked.sequence_eq_ok_iff, hitems]
  | _ => simp [list, Checked.complain]

/-- A dictionary is read member by member. -/
theorem dictionary_eq_ok_iff {r : Reader α} {v : Value} {members : List (String × α)} :
    dictionary r v = .ok members ↔
      ∃ fields, v = .object fields ∧ (fields.map fun f => (f.1, r f.2)) = members.map fun m => (m.1, .ok m.2) := by
  have hmembers (fields : Fields) :
      (fields.map fun f => ((r f.2).under (.member f.1)).map fun a => (f.1, a)) = members.map .ok ↔
        (fields.map fun f => (f.1, r f.2)) = members.map fun m => (m.1, .ok m.2) := by
    have hmember (name : String) (c : Checked α) (m : String × α) :
        ((c.under (.member name)).map fun a => (name, a)) = .ok m ↔ name = m.1 ∧ c = .ok m.2 := by
      cases c <;> simp [Checked.under, Checked.map, Prod.ext_iff]
    simp only [List.ext_getElem_iff, List.length_map, List.getElem_map, hmember, Prod.mk.injEq]
  cases v with
  | object fields => simpa [dictionary, Checked.sequence_eq_ok_iff] using hmembers fields
  | _ => simp [dictionary, Checked.complain]

/-- Each item of a list was read from some value. -/
theorem list_ok {r : Reader α} {v : Value} {as : List α} (h : list r v = .ok as) : ∀ a ∈ as, ∃ v, r v = .ok a := by
  obtain ⟨vs, -, hitems⟩ := list_eq_ok_iff.1 h
  intro a ha
  obtain ⟨v, -, hv⟩ := List.mem_map.1 (hitems ▸ List.mem_map_of_mem ha)
  exact ⟨v, hv⟩

/-- An integer between two limits lies between them. -/
theorem boundedInteger_ok {least most n : Int} {v : Value} (h : boundedInteger least (some most) v = .ok n) :
    least ≤ n ∧ n ≤ most := by
  obtain ⟨k, -, h⟩ := Checked.andThen_eq_ok_iff.1 h
  dsimp only at h
  split at h
  · cases h
  split at h
  · cases h
  cases h
  exact ⟨Int.not_lt.1 ‹_›, Int.not_lt.1 ‹_›⟩

/-- A number between two limits lies between them. -/
theorem boundedNumber_ok {least most : Int} {x : Binary64} {v : Value} (h : boundedNumber least most v = .ok x) :
    x.Between least most := by
  obtain ⟨y, -, h⟩ := Checked.andThen_eq_ok_iff.1 h
  split at h
  · cases h
  split at h
  · cases h
  cases h
  simp_all [Binary64.Between]

end Reader

end RaceAlbum
