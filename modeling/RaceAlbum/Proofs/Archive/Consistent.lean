import RaceAlbum.Photo.Rules
import RaceAlbum.Proofs.Archive.Statements
import RaceAlbum.Proofs.Schema.Accepted

/-!
# Consistent archives

An archive is consistent if every reference leads to a row, no two photos of an event have the same file name, no cyclist
has two plates, and every row is sound by itself. Each statement keeps this, provided that the row it writes is sound.
-/

namespace RaceAlbum

/-- A row of an event has a name of three to two hundred characters and is not changed or deleted before it was created or
last changed. -/
structure EventRow.Sound (r : EventRow) : Prop where
  name : 3 ≤ r.name.length ∧ r.name.length ≤ 200
  created : r.createdAt.key ≤ r.updatedAt.key
  deleted : ∀ d ∈ r.deletedAt, d.key ≤ r.updatedAt.key

/-- A row of a photo has a file name with more than blanks, one of the accepted types and some bytes; it is completed if it
was processed, else pending, and has no reason not to be classified. -/
structure PhotoRow.Sound (r : PhotoRow) : Prop where
  filename : holdsText r.filename = true
  mimeType : r.mimeType ∈ ["image/jpeg", "image/png", "image/webp"]
  fileSize : 0 < r.fileSize
  completed : r.status = .completed ↔ r.processedAt.isSome = true
  pending : r.status ≠ .completed → r.status = .pending
  reason : r.unclassifiedReason = none

/-- A row of a cyclist has a confidence between zero and one. -/
structure CyclistRow.Sound (r : CyclistRow) : Prop where
  confidence : r.confidence.Between 0 1

/-- A row of a plate has a number in the range and a confidence between zero and one, if any. -/
structure PlateRow.Sound (r : PlateRow) : Prop where
  number : 1 ≤ r.number ∧ r.number ≤ 999
  confidence : ∀ x ∈ r.confidence, x.Between 0 1

/-- A row of a colour has a share between zero and a hundred. -/
structure ColorRow.Sound (r : ColorRow) : Prop where
  density : r.density.Between 0 100

namespace Archive

/-- Every reference leads to a row, what must be unique is unique, and every row is sound. -/
structure Consistent (a : Archive) : Prop where
  photoEvent : ∀ r ∈ a.photos, ∃ e ∈ a.events, e.id = r.eventId
  cyclistPhoto : ∀ r ∈ a.cyclists, ∃ p ∈ a.photos, p.id = r.photoId
  plateCyclist : ∀ r ∈ a.plates, ∃ c ∈ a.cyclists, c.id = r.cyclistId
  colorCyclist : ∀ r ∈ a.colors, ∃ c ∈ a.cyclists, c.id = r.cyclistId
  photoIds : a.photos.Pairwise fun r s => r.id ≠ s.id
  filenames : a.photos.Pairwise fun r s => r.eventId = s.eventId → r.filename ≠ s.filename
  plates : a.plates.Pairwise fun r s => r.cyclistId ≠ s.cyclistId
  soundEvents : ∀ r ∈ a.events, r.Sound
  soundPhotos : ∀ r ∈ a.photos, r.Sound
  soundCyclists : ∀ r ∈ a.cyclists, r.Sound
  soundPlates : ∀ r ∈ a.plates, r.Sound
  soundColors : ∀ r ∈ a.colors, r.Sound

variable {a a' : Archive}

/-- Nothing is wrong where there are no rows. -/
theorem empty_consistent : empty.Consistent := by
  constructor <;> simp [empty]

/-- A reference to an event is looked up among the events. -/
theorem hasEvent_iff {id : Uuid} : a.hasEvent id = true ↔ ∃ e ∈ a.events, e.id = id := by simp [hasEvent]

/-- A reference to a photo is looked up among the photos. -/
theorem hasPhoto_iff {id : Uuid} : a.hasPhoto id = true ↔ ∃ p ∈ a.photos, p.id = id := by simp [hasPhoto]

/-- A reference to a cyclist is looked up among the cyclists. -/
theorem hasCyclist_iff {id : Uuid} : a.hasCyclist id = true ↔ ∃ c ∈ a.cyclists, c.id = id := by simp [hasCyclist]

/-- Where no other photo of the event has the file name of a row, it differs from the names of all others. -/
theorem ne_of_hasFilename {r s : PhotoRow} (h : a.hasFilename r = false) (hs : s ∈ a.photos) (hne : s.id ≠ r.id) :
    s.eventId = r.eventId → s.filename ≠ r.filename := by
  simp only [hasFilename, List.any_eq_false, Bool.and_eq_true, bne_iff_ne, beq_iff_eq, not_and] at h
  exact fun hevent => h s hs ⟨hne, hevent⟩

namespace Consistent

/-- To save a sound event keeps the archive consistent: the events keep their identifiers, so no reference is lost. -/
theorem saveEvent {e : Event} (ha : a.Consistent) (he : (EventRow.ofEntity e).Sound) (h : a.saveEvent e = .ok a') :
    a'.Consistent := by
  rw [saveEvent_ok h]
  exact { ha with
    photoEvent := fun r hr => by
      obtain ⟨s, hs, hid⟩ := ha.photoEvent r hr
      obtain ⟨t, ht, htid⟩ := exists_key_upsert EventRow.id (.ofEntity e) hs
      exact ⟨t, ht, htid.trans hid⟩
    soundEvents := fun r hr => by
      rcases mem_upsert.1 hr with rfl | ⟨hr, -⟩
      · exact he
      · exact ha.soundEvents r hr }

/-- To store a sound photo keeps it: the statement checks the event and the two names. -/
theorem storePhoto {p : Photo} (ha : a.Consistent) (hp : (PhotoRow.ofEntity p).Sound) (h : a.storePhoto p = .ok a') :
    a'.Consistent := by
  obtain ⟨rfl, hname, hevent⟩ := savePhoto_ok (storePhoto_eq_ok_iff.1 h)
  exact { ha with
    photoEvent := fun r hr => by
      rcases mem_upsert.1 hr with rfl | ⟨hr, -⟩
      · exact hasEvent_iff.1 hevent
      · exact ha.photoEvent r hr
    cyclistPhoto := fun r hr => by
      obtain ⟨s, hs, hid⟩ := ha.cyclistPhoto r hr
      obtain ⟨t, ht, htid⟩ := exists_key_upsert PhotoRow.id (.ofEntity p) hs
      exact ⟨t, ht, htid.trans hid⟩
    photoIds := pairwise_upsert (fun _ _ => Ne.symm) ha.photoIds ha.photoIds fun _ _ hne => hne
    filenames := pairwise_upsert (fun _ _ hst hts heq => hst hts.symm heq.symm) ha.photoIds ha.filenames
      fun _ hs hne => ne_of_hasFilename hname hs hne
    soundPhotos := fun r hr => by
      rcases mem_upsert.1 hr with rfl | ⟨hr, -⟩
      · exact hp
      · exact ha.soundPhotos r hr }

/-- Marking a photo as classified keeps an archive consistent. -/
theorem markPhoto {id : Uuid} {m : Moment} (ha : a.Consistent)
    (h : a.markPhoto id .completed none (some m) = .ok a') : a'.Consistent := by
  rw [markPhoto_ok h]
  have hkeeps (r : PhotoRow) : (mark id .completed none (some m) r).eventId = r.eventId ∧
      (mark id .completed none (some m) r).filename = r.filename := by
    unfold mark
    split <;> exact ⟨rfl, rfl⟩
  exact { ha with
    photoEvent := by
      rw [List.forall_mem_map]
      exact fun r hr => (hkeeps r).1 ▸ ha.photoEvent r hr
    cyclistPhoto := fun r hr => by
      obtain ⟨s, hs, hid⟩ := ha.cyclistPhoto r hr
      exact ⟨_, List.mem_map_of_mem hs, mark_id.trans hid⟩
    photoIds := List.pairwise_map.2 (by simpa only [mark_id] using ha.photoIds)
    filenames := List.pairwise_map.2 (by simpa only [hkeeps] using ha.filenames)
    soundPhotos := by
      rw [List.forall_mem_map]
      intro r hr
      obtain ⟨hname, htype, hsize, hcompleted, hpending, hreason⟩ := ha.soundPhotos r hr
      unfold mark
      split
      · exact ⟨hname, htype, hsize, by simp, fun hne => absurd rfl hne, rfl⟩
      · exact ⟨hname, htype, hsize, hcompleted, hpending, hreason⟩ }

/-- To add a sound cyclist keeps it: the statement checks the photo. -/
theorem addCyclist {r : CyclistRow} (ha : a.Consistent) (hr : r.Sound) (h : a.addCyclist r = .ok a') :
    a'.Consistent := by
  obtain ⟨rfl, -, hphoto⟩ := addCyclist_ok h
  have hstays {id : Uuid} : (∃ c ∈ a.cyclists, c.id = id) → ∃ c ∈ a.cyclists ++ [r], c.id = id :=
    fun ⟨c, hc, hid⟩ => ⟨c, List.mem_append_left _ hc, hid⟩
  exact { ha with
    cyclistPhoto := List.forall_mem_append.2 ⟨ha.cyclistPhoto, by simpa using hasPhoto_iff.1 hphoto⟩
    plateCyclist := fun s hs => hstays (ha.plateCyclist s hs)
    colorCyclist := fun s hs => hstays (ha.colorCyclist s hs)
    soundCyclists := List.forall_mem_append.2 ⟨ha.soundCyclists, by simpa using hr⟩ }

/-- So does a sound colour, whose cyclist is checked. -/
theorem addColor {r : ColorRow} (ha : a.Consistent) (hr : r.Sound) (h : a.addColor r = .ok a') : a'.Consistent := by
  obtain ⟨rfl, hcyclist⟩ := addColor_ok h
  exact { ha with
    colorCyclist := List.forall_mem_append.2 ⟨ha.colorCyclist, by simpa using hasCyclist_iff.1 hcyclist⟩
    soundColors := List.forall_mem_append.2 ⟨ha.soundColors, by simpa using hr⟩ }

/-- So does a sound plate, of which a cyclist has only one. -/
theorem addPlate {r : PlateRow} (ha : a.Consistent) (hr : r.Sound) (h : a.addPlate r = .ok a') : a'.Consistent := by
  obtain ⟨rfl, hplate, hcyclist⟩ := addPlate_ok h
  exact { ha with
    plateCyclist := List.forall_mem_append.2 ⟨ha.plateCyclist, by simpa using hasCyclist_iff.1 hcyclist⟩
    plates := List.pairwise_append.2 ⟨ha.plates, List.pairwise_singleton _ _, by simpa using hplate⟩
    soundPlates := List.forall_mem_append.2 ⟨ha.soundPlates, by simpa using hr⟩ }

/-- What refers to a row that a deletion leaves is left as well, and what refers to one that it takes is taken. -/
theorem deletePhoto {id : Uuid} (ha : a.Consistent) (h : a.deletePhoto id = .ok a') : a'.Consistent := by
  have hleft {cyclistId : Uuid} (hex : ∃ c ∈ a.cyclists, c.id = cyclistId)
      (hnot : (!a.photoHasCyclist id cyclistId) = true) :
      ∃ c ∈ a.cyclists.filter (fun r => !ofPhoto id r), c.id = cyclistId := by
    obtain ⟨c, hc, rfl⟩ := hex
    simp only [photoHasCyclist, Bool.not_eq_true', List.any_eq_false, Bool.and_eq_true, beq_iff_eq, not_and] at hnot
    have hother : ofPhoto id c = false := Bool.eq_false_iff.2 fun h => hnot c hc h rfl
    exact ⟨c, List.mem_filter.2 ⟨hc, by simp [hother]⟩, rfl⟩
  rw [deletePhoto_ok h]
  exact { ha with
    photoEvent := fun r hr => ha.photoEvent r (List.mem_filter.1 hr).1
    cyclistPhoto := fun r hr => by
      obtain ⟨hr, hother⟩ := List.mem_filter.1 hr
      obtain ⟨p, hp, hid⟩ := ha.cyclistPhoto r hr
      exact ⟨p, List.mem_filter.2 ⟨hp, by simpa [ofPhoto, hid] using hother⟩, hid⟩
    plateCyclist := fun r hr => hleft (ha.plateCyclist r (List.mem_filter.1 hr).1) (List.mem_filter.1 hr).2
    colorCyclist := fun r hr => hleft (ha.colorCyclist r (List.mem_filter.1 hr).1) (List.mem_filter.1 hr).2
    photoIds := ha.photoIds.filter _
    filenames := ha.filenames.filter _
    plates := ha.plates.filter _
    soundPhotos := fun r hr => ha.soundPhotos r (List.mem_filter.1 hr).1
    soundCyclists := fun r hr => ha.soundCyclists r (List.mem_filter.1 hr).1
    soundPlates := fun r hr => ha.soundPlates r (List.mem_filter.1 hr).1
    soundColors := fun r hr => ha.soundColors r (List.mem_filter.1 hr).1 }

end Consistent

end Archive

end RaceAlbum
