import RaceAlbum.Proofs.Archive.Constrained
import RaceAlbum.Proofs.Archive.Pages
import RaceAlbum.Proofs.Calendar.Instants

/-!
# The list of events

`EventRow.ListedBefore` says which of two events may stand before the other in a list, with days compared as the days before
them and moments as instants, and `Archive.IsEventList` what the list of all events that are not deleted is like. Page by page
such a list is read, whatever the size of a page (`readsAll_eventPage`).
-/

namespace RaceAlbum

/-- An event may be listed before another: its day is later, or it is of the same day and was not created earlier. -/
def EventRow.ListedBefore (r s : EventRow) : Prop :=
  s.date.dayNumber < r.date.dayNumber ∨ (r.date = s.date ∧ s.createdAt.micros ≤ r.createdAt.micros)

namespace Archive

/-- The rows of all events that are not deleted, each once and in their order. -/
structure IsEventList (a : Archive) (rows : List EventRow) : Prop where
  once : (rows.map EventRow.id).Nodup
  active : ∀ r, r ∈ rows ↔ r ∈ a.events ∧ r.deletedAt = none
  ordered : rows.Pairwise EventRow.ListedBefore

variable {a : Archive}

theorem eventBefore_iff {r s : EventRow} : eventBefore r s = true ↔
    s.date.key < r.date.key ∨ (r.date.key = s.date.key ∧ s.createdAt.key ≤ r.createdAt.key) := by
  unfold eventBefore
  rw [Bool.or_eq_true, Bool.and_eq_true, decide_eq_true_iff, beq_iff_eq, decide_eq_true_iff]

theorem listedBefore_of_eventBefore {r s : EventRow} (h : eventBefore r s = true) : r.ListedBefore s := by
  rcases eventBefore_iff.1 h with hlater | ⟨hday, hcreated⟩
  · exact .inl (Date.dayNumber_lt hlater)
  · exact .inr ⟨Date.eq_of_key hday, Moment.micros_le_iff.2 hcreated⟩

/-- Events are sorted with the later days first, and of one day with the later created first. -/
theorem listedEvents_pairwise (a : Archive) : a.listedEvents.Pairwise fun r s => eventBefore r s = true := by
  refine List.pairwise_mergeSort ?_ ?_ _
  · intro r s t hrs hst
    rw [eventBefore_iff] at hrs hst ⊢
    omega
  · intro r s
    rw [Bool.or_eq_true, eventBefore_iff, eventBefore_iff]
    omega

/-- What is listed is the list of all events that are not deleted. -/
theorem listedEvents_isEventList (hids : (a.events.map EventRow.id).Nodup) : a.IsEventList a.listedEvents where
  once := nodup_keys_sorted _ _ hids
  active r := by
    rw [listedEvents, List.mem_mergeSort, List.mem_filter, EventRow.isActive, Option.isNone_iff_eq_none]
  ordered := (listedEvents_pairwise a).imp listedBefore_of_eventBefore

/-- The pages of the list up to the first empty one hold the list. -/
theorem readsAll_eventPage {limit : Int} (hlimit : 1 ≤ limit) (hfit : isInt64 (a.events.length + limit) = true) :
    ReadsAll a.eventPage limit (a.listedEvents.map EventRow.listItem) := by
  have hread : ReadsAll (fun p => pageOf p a.listedEvents) limit a.listedEvents := readsAll_sorted _ _ _ hlimit hfit
  exact ReadsFrom.map EventRow.listItem hread

end Archive

end RaceAlbum
