import RaceAlbum.Proofs.Archive.Constrained
import RaceAlbum.Proofs.Archive.Search

/-!
# Queries hide deleted events

An event that is deleted is not found, it is on no page of the events, and none of its photos is on a page of photos, whatever
is searched for. A photo of it is still found by its own identifier.
-/

namespace RaceAlbum

/-- A photo without the marks of how far it is processed, which are all that may change of a photo. -/
def PhotoRow.unmarked (r : PhotoRow) : PhotoRow :=
  { r with status := .pending, unclassifiedReason := none, processedAt := none }

namespace Archive

variable {a : Archive}

/-- The photos of an event in the order of their rows. -/
def photosOf (a : Archive) (eventId : Uuid) : List PhotoRow := a.photos.filter fun r => r.eventId == eventId

theorem mem_photosOf {eventId : Uuid} {r : PhotoRow} : r ∈ a.photosOf eventId ↔ r ∈ a.photos ∧ r.eventId = eventId := by
  rw [photosOf, List.mem_filter, beq_iff_eq]

section Deleted

variable {row : EventRow} (ha : a.Constrained) (hrow : row ∈ a.events) (hdeleted : row.isActive = false)

include ha hrow hdeleted

/-- An event that is not deleted is another one. -/
theorem ne_of_isActive {r : EventRow} (hr : r ∈ a.events) (hactive : r.isActive = true) : r.id ≠ row.id := by
  intro hid
  have heq : r = row := List.inj_on_of_nodup_map ha.eventIds hr hrow hid
  rw [heq, hdeleted] at hactive
  cases hactive

/-- A deleted event is not found. -/
theorem activeEvent?_eq_none : a.activeEvent? row.id = none := by
  rw [activeEvent?, List.find?_eq_none]
  intro r hr hfound
  rw [Bool.and_eq_true, beq_iff_eq] at hfound
  exact ne_of_isActive ha hrow hdeleted hr hfound.1 hfound.2

/-- A deleted event is on no page of the events. -/
theorem not_on_eventPage {p : Page} {items : List EventListItem} (h : a.eventPage p = .ok items) :
    ∀ i ∈ items, i.id ≠ row.id := by
  intro i hi
  obtain ⟨r, hr, rfl⟩ := exists_of_mem_page h hi
  obtain ⟨hr, hactive⟩ := List.mem_filter.1 (List.mem_mergeSort.1 hr)
  exact ne_of_isActive ha hrow hdeleted hr hactive

/-- No photo of a deleted event matches a search. -/
theorem ne_of_mem_matching {s : Search} {r : PhotoRow} (hr : r ∈ a.matching s) : r.eventId ≠ row.id := by
  have hmatch := (mem_matching.1 hr).2
  simp only [isMatch, Bool.and_eq_true] at hmatch
  obtain ⟨e, he, hid, hactive⟩ := eventIsActive_iff.1 hmatch.1.1.1.1.1
  have hactive : e.isActive = true := Option.isNone_iff_eq_none.2 hactive
  exact hid ▸ ne_of_isActive ha hrow hdeleted he hactive

/-- No photo of a deleted event is on a page of a search. -/
theorem not_on_searchPage {f : PhotoFilters} {p : Page} {items : List PhotoListItem} (h : a.searchPage f p = .ok items) :
    ∀ i ∈ items, i.eventId ≠ row.id := by
  intro i hi
  rcases hs : Search.ofFilters f with g | s
  · unfold searchPage at h
    rw [hs] at h
    cases h
  · rw [searchPage_eq hs] at h
    obtain ⟨r, hr, rfl⟩ := exists_of_mem_page h hi
    exact ne_of_mem_matching ha hrow hdeleted hr

/-- No photo of a deleted event is on a page of the photos of an event. -/
theorem not_on_photoPage {eventId : Uuid} {p : Page} {items : List PhotoListItem} (h : a.photoPage eventId p = .ok items) :
    ∀ i ∈ items, i.eventId ≠ row.id := by
  rw [photoPage_eq] at h
  exact not_on_searchPage ha hrow hdeleted h

end Deleted

end Archive

end RaceAlbum
