import Mathlib.Data.List.Nodup
import RaceAlbum.Archive.Queries

/-!
# The constraints of the tables

An archive is constrained if it has what the tables ask for and no more: keys are unique, every reference leads to a row, no
two photos of an event have the same file name, and no cyclist has two plates. The rows may stand in any order and have been
created at any moment. What is looked up by a key is then the row of that key.
-/

namespace RaceAlbum

/-- Where keys are unique, what is found by a key is the row of that key. -/
theorem find?_key_iff {ρ : Type} {key : ρ → Uuid} {rows : List ρ} {id : Uuid} {r : ρ} (hkeys : (rows.map key).Nodup) :
    rows.find? (fun s => key s == id) = some r ↔ r ∈ rows ∧ key r = id := by
  constructor
  · intro h
    exact ⟨List.mem_of_find?_eq_some h, by simpa using List.find?_some h⟩
  · rintro ⟨hr, rfl⟩
    obtain ⟨s, hs⟩ : ∃ s, rows.find? (fun s => key s == key r) = some s := by
      rw [← Option.isSome_iff_exists, List.find?_isSome]
      exact ⟨r, hr, beq_self_eq_true _⟩
    have hmem := List.mem_of_find?_eq_some hs
    have hkey : key s = key r := by simpa using List.find?_some hs
    rw [hs, List.inj_on_of_nodup_map hkeys hmem hr hkey]

/-- Keys stay unique when rows are taken away. -/
theorem nodup_keys_filter {ρ κ : Type} {key : ρ → κ} {rows : List ρ} (keep : ρ → Bool) (h : (rows.map key).Nodup) :
    ((rows.filter keep).map key).Nodup :=
  (List.filter_sublist.map key).nodup h

/-- Keys stay unique when rows are taken away and the others are sorted. -/
theorem nodup_keys_sorted {ρ κ : Type} {key : ρ → κ} {rows : List ρ} (keep : ρ → Bool) (before : ρ → ρ → Bool)
    (h : (rows.map key).Nodup) : (((rows.filter keep).mergeSort before).map key).Nodup := by
  have hperm : ((rows.filter keep).mergeSort before).Perm (rows.filter keep) := List.mergeSort_perm _ _
  exact (hperm.map key).nodup_iff.2 (nodup_keys_filter keep h)

namespace Archive

/-- An event that is looked up is not deleted. -/
theorem activeEvent?_eq_some {a : Archive} {id : Uuid} {r : EventRow} (h : a.activeEvent? id = some r) :
    r ∈ a.events ∧ r.isActive = true ∧ r.id = id := by
  have hfound := List.find?_some h
  rw [Bool.and_eq_true, beq_iff_eq] at hfound
  exact ⟨List.mem_of_find?_eq_some h, hfound⟩

/-- Where identifiers are unique, an event that is not deleted is found by its identifier. -/
theorem activeEvent?_eq {a : Archive} {row : EventRow} (hids : (a.events.map EventRow.id).Nodup) (hrow : row ∈ a.events)
    (hactive : row.isActive = true) : a.activeEvent? row.id = some row := by
  obtain ⟨found, hfound⟩ : ∃ found, a.activeEvent? row.id = some found := by
    rw [← Option.isSome_iff_exists, activeEvent?, List.find?_isSome]
    exact ⟨row, hrow, by simp [hactive]⟩
  obtain ⟨hmem, -, hid⟩ := activeEvent?_eq_some hfound
  rw [hfound, List.inj_on_of_nodup_map hids hmem hrow hid]

/-- The rows satisfy the constraints of the tables. -/
structure Constrained (a : Archive) : Prop where
  eventIds : (a.events.map EventRow.id).Nodup
  photoIds : (a.photos.map PhotoRow.id).Nodup
  cyclistIds : (a.cyclists.map CyclistRow.id).Nodup
  plateIds : (a.plates.map PlateRow.id).Nodup
  colorIds : (a.colors.map ColorRow.id).Nodup
  filenames : (a.photos.map fun r => (r.eventId, r.filename)).Nodup
  onePlate : (a.plates.map PlateRow.cyclistId).Nodup
  photoEvent : ∀ r ∈ a.photos, r.eventId ∈ a.events.map EventRow.id
  cyclistPhoto : ∀ r ∈ a.cyclists, r.photoId ∈ a.photos.map PhotoRow.id
  plateCyclist : ∀ r ∈ a.plates, r.cyclistId ∈ a.cyclists.map CyclistRow.id
  colorCyclist : ∀ r ∈ a.colors, r.cyclistId ∈ a.cyclists.map CyclistRow.id

variable {a : Archive}

/-- The constraints can be checked. -/
instance : Decidable a.Constrained :=
  decidable_of_iff ((a.events.map EventRow.id).Nodup ∧ (a.photos.map PhotoRow.id).Nodup ∧
      (a.cyclists.map CyclistRow.id).Nodup ∧ (a.plates.map PlateRow.id).Nodup ∧ (a.colors.map ColorRow.id).Nodup ∧
      (a.photos.map fun r => (r.eventId, r.filename)).Nodup ∧ (a.plates.map PlateRow.cyclistId).Nodup ∧
      (∀ r ∈ a.photos, r.eventId ∈ a.events.map EventRow.id) ∧
      (∀ r ∈ a.cyclists, r.photoId ∈ a.photos.map PhotoRow.id) ∧
      (∀ r ∈ a.plates, r.cyclistId ∈ a.cyclists.map CyclistRow.id) ∧
      ∀ r ∈ a.colors, r.cyclistId ∈ a.cyclists.map CyclistRow.id)
    ⟨fun ⟨h₁, h₂, h₃, h₄, h₅, h₆, h₇, h₈, h₉, h₁₀, h₁₁⟩ => ⟨h₁, h₂, h₃, h₄, h₅, h₆, h₇, h₈, h₉, h₁₀, h₁₁⟩,
      fun ⟨h₁, h₂, h₃, h₄, h₅, h₆, h₇, h₈, h₉, h₁₀, h₁₁⟩ => ⟨h₁, h₂, h₃, h₄, h₅, h₆, h₇, h₈, h₉, h₁₀, h₁₁⟩⟩

namespace Constrained

/-- Photos of one identifier are the same. -/
theorem eq_of_photoId (ha : a.Constrained) {r s : PhotoRow} (hr : r ∈ a.photos) (hs : s ∈ a.photos) (h : r.id = s.id) :
    r = s :=
  List.inj_on_of_nodup_map ha.photoIds hr hs h

/-- A photo is found by its identifier. -/
theorem photo?_eq (ha : a.Constrained) {r : PhotoRow} (hr : r ∈ a.photos) : a.photo? r.id = some r :=
  (find?_key_iff ha.photoIds).2 ⟨hr, rfl⟩

/-- The plate of a cyclist is the row that refers to it. -/
theorem plateOf?_eq_some_iff (ha : a.Constrained) {id : Uuid} {p : PlateRow} :
    a.plateOf? id = some p ↔ p ∈ a.plates ∧ p.cyclistId = id :=
  find?_key_iff ha.onePlate

end Constrained

/-- Two photos of one moment and a later one, and a photo of a deleted event. There are two cyclists on the first photo and
one each on the third and on the last, all of them with the same plate; of the two cyclists on one photo, and of the colours
of one cyclist, the later comes first. -/
def smallAlbum : Archive :=
  let at_ (hour : Nat) : Moment := ⟨.first, .ofParts hour 0 0 0⟩
  let photo (id event : Nat) (filename : String) (hour : Nat) : PhotoRow :=
    ⟨.ofNat id, .ofNat event, filename, filename, 1, "image/jpeg", some 640, none, .completed, none, none, at_ hour,
      some (at_ hour)⟩
  let plate (id cyclist : Nat) : PlateRow := ⟨.ofNat id, .ofNat cyclist, 42, some .zero, false, none, at_ 14⟩
  { events := [⟨.ofNat 1, "Tour", .first, none, .draft, 0, 0, at_ 0, at_ 0, none⟩,
      ⟨.ofNat 2, "Sprint", .first, none, .draft, 0, 0, at_ 0, at_ 1, some (at_ 1)⟩]
    photos := [photo 3 1 "a.jpg" 12, photo 4 1 "b.jpg" 12, photo 5 1 "c.jpg" 13, photo 6 2 "a.jpg" 13]
    cyclists := [⟨.ofNat 7, .ofNat 3, [], .zero, at_ 15⟩, ⟨.ofNat 8, .ofNat 3, [], .zero, at_ 14⟩,
      ⟨.ofNat 9, .ofNat 5, [], .zero, at_ 14⟩, ⟨.ofNat 10, .ofNat 6, [], .zero, at_ 14⟩]
    plates := [plate 11 10, plate 12 7, plate 13 9, plate 14 8]
    colors := [⟨.ofNat 15, .ofNat 8, .helmet, "red", "#ff0000", .zero, at_ 15⟩,
      ⟨.ofNat 16, .ofNat 9, .helmet, "blue", "#0000ff", .zero, at_ 14⟩,
      ⟨.ofNat 17, .ofNat 8, .jersey, "white", "#ffffff", .zero, at_ 14⟩]
    blocks := [] }

end Archive

end RaceAlbum
