import RaceAlbum.Proofs.Archive.Transaction
import RaceAlbum.World

/-!
# What an answer changes

A question changes at most the part of the world that it is addressed to, and a question that is no write changes neither
the archive nor the store. A write to the archive that fails changes nothing at all (`answerWith_archive_error`).
-/

namespace RaceAlbum

/-- Whether a question asks for a change of rows or objects. -/
def Port.isWrite : Port → Bool
  | saveEvent _ | savePhoto _ | deletePhoto _ | saveClassification .. | putObject .. | removeObject _ => true
  | _ => false

/-- The archive changes only by a write. -/
theorem Archive.answer_read {p : Port} (hp : p.isWrite = false) (a : Archive) : (Archive.answer p a).2 = a := by
  cases p <;> first | rfl | cases hp

/-- A failed answer of the archive leaves it as it was. -/
theorem Archive.answer_error {p : Port} {a a' : Archive} {f : Failure} (h : Archive.answer p a = (.error f, a')) :
    a' = a := by
  cases p with
  | saveEvent e => exact write_error h
  | savePhoto q => exact write_error h
  | deletePhoto id => exact write_error h
  | saveClassification q bundles => exact (transact_error h).1
  | _ => exact (Prod.mk.inj h).2.symm

/-- The store changes only by a write. -/
theorem Storage.answer_read {p : Port} (hp : p.isWrite = false) (s : Storage) : (Storage.answer p s).2 = s := by
  cases p <;> first | rfl | cases hp

namespace World

variable {σ : Type} {supply : Handler σ} {p : Port}

/-- Who answers a question that is addressed to the supply. -/
theorem answerWith_supply (hp : p.addressee = .supply) (w : World σ) :
    answerWith supply p w = ((supply p w.supply).1, { w with supply := (supply p w.supply).2 }) := by
  simp [answerWith, hp]

/-- Who answers a question that is addressed to the archive. -/
theorem answerWith_archive (hp : p.addressee = .archive) (w : World σ) :
    answerWith supply p w = ((Archive.answer p w.archive).1, { w with archive := (Archive.answer p w.archive).2 }) := by
  simp [answerWith, hp]

/-- Who answers a question that is addressed to the store. -/
theorem answerWith_storage (hp : p.addressee = .storage) (w : World σ) :
    answerWith supply p w = ((Storage.answer p w.storage).1, { w with storage := (Storage.answer p w.storage).2 }) := by
  simp [answerWith, hp]

/-- Two worlds have the same rows and the same objects. -/
def SameStores (w w' : World σ) : Prop := w'.archive = w.archive ∧ w'.storage = w.storage

theorem SameStores.refl (w : World σ) : SameStores w w := ⟨rfl, rfl⟩

theorem SameStores.trans {w w₁ w₂ : World σ} (h : SameStores w w₁) (h' : SameStores w₁ w₂) : SameStores w w₂ :=
  ⟨h'.1.trans h.1, h'.2.trans h.2⟩

/-- A question that is no write changes neither rows nor objects. -/
theorem answerWith_read (hp : p.isWrite = false) (w : World σ) : SameStores w (answerWith supply p w).2 := by
  cases ha : p.addressee with
  | supply =>
    rw [answerWith_supply ha]
    exact ⟨rfl, rfl⟩
  | archive =>
    rw [answerWith_archive ha]
    exact ⟨Archive.answer_read hp _, rfl⟩
  | storage =>
    rw [answerWith_storage ha]
    exact ⟨rfl, Storage.answer_read hp _⟩

/-- A failed answer of the archive changes nothing. -/
theorem answerWith_archive_error {w : World σ} {f : Failure} (hp : p.addressee = .archive)
    (hf : (answerWith supply p w).1 = .error f) : (answerWith supply p w).2 = w := by
  rw [answerWith_archive hp] at hf ⊢
  have h : (Archive.answer p w.archive).2 = w.archive := Archive.answer_error (Prod.ext hf rfl)
  simp only [h]

end World

end RaceAlbum
