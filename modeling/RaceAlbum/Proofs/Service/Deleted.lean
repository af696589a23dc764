import RaceAlbum.Proofs.Archive.Hidden
import RaceAlbum.Proofs.Service.Accepting
import RaceAlbum.Proofs.Service.Regular

/-!
# Deleted events stay deleted

After an event is deleted no call finds it, no list shows it or a photo of it, and its row and the photos of it are as they
were, but for what is done to a photo by the photo's own identifier (`deleted_event_stays_hidden`). `Buried` is what each
call keeps of this: an event is written only if it is new or was found, and photos are added only to an event that was found.
-/

namespace RaceAlbum

open Program

variable {t t' : Tape} {ms : List Moment} {us : List Uuid} {a a' : Archive} {w w' : World Tape}

/-- The call deletes the photo of an identifier. -/
def ServiceCall.deletes (id : Uuid) : ServiceCall → Bool
  | deletePhoto target => target == id
  | _ => false

theorem ServiceCall.deletes_eq_false {c : ServiceCall} (hc : ¬c.DeletesPhoto) (id : Uuid) : c.deletes id = false := by
  cases c with
  | deletePhoto target => exact absurd ⟨target, rfl⟩ hc
  | _ => rfl

/-! ## What is not found -/

/-- No call finds an event, and no list shows it or a photo of it. -/
structure World.Hides (w : World Tape) (id : Uuid) : Prop where
  get : run taped (EventService.get id) w = (.error (.notFound EventService.entity id), w)
  update : ∀ patch, run taped (EventService.update id patch) w = (.error (.notFound EventService.entity id), w)
  delete : run taped (EventService.delete id) w = (.error (.notFound EventService.entity id), w)
  upload : ∀ files, run taped (PhotoService.upload id files) w = (.error (.notFound EventService.entity id), w)
  events : ∀ page items w', run taped (EventService.list page) w = (.ok items, w') → ∀ i ∈ items, i.id ≠ id
  photos : ∀ eventId page items w', run taped (PhotoService.list eventId page) w = (.ok items, w') →
    ∀ i ∈ items, i.eventId ≠ id
  search : ∀ filters page items w', run taped (PhotoService.search filters page) w = (.ok items, w') →
    ∀ i ∈ items, i.eventId ≠ id

/-- A deleted event is hidden. -/
theorem World.hides_of_deleted {row : EventRow} (ha : w.archive.Constrained) (hrow : row ∈ w.archive.events)
    (hdeleted : row.isActive = false) : w.Hides row.id := by
  have hnone := Archive.activeEvent?_eq_none ha hrow hdeleted
  have hask : run taped (call (.findEvent row.id)) w = (.ok none, w) := by
    change (Except.ok ((w.archive.activeEvent? row.id).map EventRow.entity), w) = _
    rw [hnone]
    rfl
  have hfind : run taped (EventService.find row.id) w = (.error (.notFound EventService.entity row.id), w) :=
    (run_bind_of_ok hask).trans rfl
  have hshow : run taped (call (.showEvent row.id)) w = (.ok none, w) := by
    change (Except.ok ((w.archive.activeEvent? row.id).map EventRow.detail), w) = _
    rw [hnone]
    rfl
  constructor
  · exact (run_bind_of_ok hshow).trans rfl
  · exact fun patch => run_bind_of_error hfind
  · exact run_bind_of_error hfind
  · exact fun files => (run_bind_of_ok hask).trans rfl
  · exact fun page items w' h => Archive.not_on_eventPage ha hrow hdeleted (Prod.mk.inj (run_archive rfl h).1).1
  · exact fun eventId page items w' h =>
      Archive.not_on_photoPage ha hrow hdeleted (Prod.mk.inj (run_archive rfl h).1).1
  · exact fun filters page items w' h =>
      Archive.not_on_searchPage ha hrow hdeleted (Prod.mk.inj (run_archive rfl h).1).1

/-! ## What is still found -/

/-- A photo can be read, classified and deleted by its identifier. Whatever was accepted of it is recorded if new identifiers
are given for it, and its row is deleted whatever comes of the removal of its object. -/
structure World.Serves (w : World Tape) (p : PhotoRow) : Prop where
  get : ∃ detail, run taped (PhotoService.get p.id) w = (.ok detail, w) ∧ detail.id = p.id ∧ detail.eventId = p.eventId ∧
    detail.filename = p.filename
  classify : ∀ ds t, Detection.Accepted ds → t.IsNewTo w.archive →
    t.Holds (Detection.entitiesOf ds + 1) (Detection.entitiesOf ds) →
    (run taped (ClassificationService.classify p.id ds) { w with supply := t }).1 = .ok p.id
  delete : ∃ w', run taped (PhotoService.delete p.id) w = ((w.storage.remove p.storageKey).1.map fun _ => p.id, w') ∧
    ∀ r ∈ w'.archive.photos, r.id ≠ p.id

/-- The archive without a photo and what was seen on it. -/
def Archive.withoutPhoto (a : Archive) (id : Uuid) : Archive :=
  { a with
    photos := a.photos.filter fun r => r.id != id
    cyclists := a.cyclists.filter fun r => !ofPhoto id r
    plates := a.plates.filter fun r => !a.photoHasCyclist id r.cyclistId
    colors := a.colors.filter fun r => !a.photoHasCyclist id r.cyclistId }

/-- Where no change is forbidden, a photo can be deleted. -/
theorem Archive.deletePhoto_of_unblocked (ha : a.blocks = []) (id : Uuid) :
    a.deletePhoto id = .ok (a.withoutPhoto id) := by
  have hallowed (holds : Bool) (table : Table) : (!(holds && a.isBlocked table .delete)) = true := by
    simp [isBlocked, ha]
  unfold deletePhoto
  rw [ensure_bind_of (hallowed _ _), ensure_bind_of (hallowed _ _), ensure_bind_of (hallowed _ _),
    ensure_bind_of (hallowed _ _)]
  rfl

/-- An object is removed by the store. -/
theorem removeObject_run (key : String) (w : World Tape) : run taped (call (.removeObject key)) w =
    ((w.storage.remove key).1, { w with storage := (w.storage.remove key).2 }) := by
  rw [run_call, taped, World.answerWith_storage rfl]
  rfl

/-- A photo that is there is deleted: its row first, then its object. -/
theorem deletePhoto_run {p : PhotoRow} (ha : w.archive.Constrained) (hblocks : w.archive.blocks = [])
    (hp : p ∈ w.archive.photos) :
    run taped (PhotoService.delete p.id) w = ((w.storage.remove p.storageKey).1.map fun _ => p.id,
      ⟨w.supply, w.archive.withoutPhoto p.id, (w.storage.remove p.storageKey).2⟩) := by
  have hdelete : run taped (call (.deletePhoto p.id)) w = (.ok (), { w with archive := w.archive.withoutPhoto p.id }) := by
    have hanswer : Archive.answer (.deletePhoto p.id) w.archive = (.ok (), w.archive.withoutPhoto p.id) :=
      Archive.write_of_ok () (Archive.deletePhoto_of_unblocked hblocks p.id)
    rw [run_call, taped, World.answerWith_archive rfl, hanswer]
  refine (run_bind_of_ok (findPhoto_run ha hp)).trans ((run_bind_of_ok hdelete).trans ?_)
  have hremove := removeObject_run p.storageKey { w with archive := w.archive.withoutPhoto p.id }
  rcases hanswer : w.storage.remove p.storageKey with ⟨f | _, s⟩
  · rw [hanswer] at hremove
    exact run_bind_of_error hremove
  · rw [hanswer] at hremove
    exact (run_bind_of_ok hremove).trans rfl

/-- A photo that is not there is not deleted. -/
theorem deletePhoto_run_of_missing {id : Uuid} (hid : ∀ r ∈ w.archive.photos, r.id ≠ id) :
    run taped (PhotoService.delete id) w = (.error (.notFound PhotoService.entity id), w) :=
  run_bind_of_error (findPhoto_run_of_missing hid)

/-- A photo that is there serves. -/
theorem World.serves_of_mem {p : PhotoRow} (ha : w.archive.Constrained) (hblocks : w.archive.blocks = [])
    (hp : p ∈ w.archive.photos) : w.Serves p := by
  constructor
  · have hshow : run taped (call (.showPhoto p.id)) w =
        (.ok (some (p.detail ((w.archive.cyclistsOf p.id).map w.archive.cyclistView))), w) := by
      change (Except.ok (w.archive.photoDetail? p.id), w) = _
      rw [Archive.photoDetail?, ha.photo?_eq hp]
      rfl
    exact ⟨_, (run_bind_of_ok hshow).trans rfl, rfl, rfl, rfl⟩
  · intro ds t hds hnew hholds
    obtain ⟨w', _, _, hrun, -⟩ := classify_run (w := { w with supply := t }) (m := 0) (n := 0) ha hblocks hp hds.parts hnew
      hholds
    rw [hrun]
  · refine ⟨_, deletePhoto_run ha hblocks hp, fun r hr => ?_⟩
    simpa using (List.mem_filter.1 hr).2

/-! ## What every call keeps -/

/-- A deleted event is there, and so are photos of it, but for their marks. -/
structure Buried (row : EventRow) (ps : List PhotoRow) (t : Tape) (a : Archive) : Prop extends Regular t a where
  there : row ∈ a.events
  deleted : row.isActive = false
  kept : (a.photosOf row.id).map PhotoRow.unmarked = ps

/-- A classification leaves the photos of an event as they are but for their marks. -/
theorem Archive.unmarked_classified (a : Archive) (p : PhotoRow) (bs : List Bundle) (id : Uuid) :
    ((a.classified p bs).photosOf id).map PhotoRow.unmarked = (a.photosOf id).map PhotoRow.unmarked := by
  change ((a.photos.map (mark _ _ _ _)).filter _).map _ = ((a.photos.filter _).map _)
  have hmark (r : PhotoRow) : (mark p.id p.status p.unclassifiedReason p.processedAt r).eventId = r.eventId ∧
      (mark p.id p.status p.unclassifiedReason p.processedAt r).unmarked = r.unmarked := by
    unfold mark
    split <;> exact ⟨rfl, rfl⟩
  rw [List.filter_map, List.map_map]
  simp only [Function.comp_def, hmark]

/-- Photos of another event are added without touching those of an event. -/
theorem Archive.photosOf_append {ps : List PhotoRow} {id : Uuid} (hps : ∀ p ∈ ps, p.eventId ≠ id) :
    photosOf { a with photos := a.photos ++ ps } id = a.photosOf id := by
  have hnone : ps.filter (fun r => r.eventId == id) = [] := by simpa using hps
  change (a.photos ++ ps).filter _ = a.photos.filter _
  rw [List.filter_append, hnone, List.append_nil]

namespace Buried

variable {row : EventRow} {ps : List PhotoRow}

/-- An event that is written or has photos added is another one. -/
theorem ne_of_effect (h : Buried row ps t a) (hreads : t.Reads t' ms us) {id : Uuid}
    (hid : id ∈ us ∨ a.HasActiveEvent id) : id ≠ row.id := by
  rcases hid with hid | ⟨r, hr, hactive, rfl⟩
  · exact ((h.ne_of_taken hreads hid).1 row h.there).symm
  · exact Archive.ne_of_isActive h.constrained h.there h.deleted hr hactive

/-- A call that deletes no photo leaves the row of the event and the photos of it as they are. -/
theorem effect {c : ServiceCall} {succeeded : Bool} (h : Buried row ps t a) (hreads : t.Reads t' ms us)
    (hc : ¬c.DeletesPhoto) (heffect : Effect a ms us c succeeded a') :
    row ∈ a'.events ∧ (a'.photosOf row.id).map PhotoRow.unmarked = ps := by
  cases heffect with
  | nothing _ => exact ⟨h.there, h.kept⟩
  | eventSaved _ hid _ _ hsave =>
    rw [Archive.saveEvent_ok hsave]
    exact ⟨mem_upsert.2 (.inr ⟨h.there, (h.ne_of_effect hreads hid).symm⟩), h.kept⟩
  | photosStored hactive hps hsub hmade =>
    have hother := h.ne_of_effect hreads (.inr hactive)
    rw [h.photosStored hreads hsub hmade, Archive.photosOf_append]
    · exact ⟨h.there, h.kept⟩
    · refine List.forall_mem_map.2 fun p hp => ?_
      obtain ⟨file, hfile⟩ := hps p hp
      have hevent : (PhotoRow.ofEntity p).eventId = _ := hfile.eventId
      exact hevent ▸ hother
  | photoDeleted _ => exact absurd ⟨_, rfl⟩ hc
  | classified _ _ _ _ _ hmade =>
    rw [Archive.classification_made hmade, Archive.unmarked_classified]
    exact ⟨h.there, h.kept⟩

/-- The deletion of a photo leaves the row of the event and the other photos of it as they are. -/
theorem deletePhoto (id : Uuid) (h : Buried row ps w.supply w.archive) :
    let a' := (run taped (PhotoService.delete id) w).2.archive
    row ∈ a'.events ∧ (a'.photosOf row.id).map PhotoRow.unmarked = ps.filter fun p => !id == p.id := by
  have hphotos : ((w.archive.photos.filter fun r => r.id != id).filter fun r => r.eventId == row.id).map
      PhotoRow.unmarked = ps.filter fun p => !id == p.id := by
    rw [← h.kept, List.filter_map, Archive.photosOf, List.filter_filter, List.filter_filter]
    refine congrArg _ (List.filter_congr fun r _ => ?_)
    have hid : (r.id != id) = !id == r.unmarked.id := by
      rw [bne, Bool.beq_comm]
      rfl
    rw [Bool.and_comm, hid]
    rfl
  by_cases hp : ∃ p ∈ w.archive.photos, p.id = id
  · obtain ⟨p, hp, rfl⟩ := hp
    rw [deletePhoto_run h.constrained h.unblocked hp]
    exact ⟨h.there, hphotos⟩
  · have hid : ∀ r ∈ w.archive.photos, r.id ≠ id := fun r hr heq => hp ⟨r, hr, heq⟩
    have hall : w.archive.photos.filter (fun r => r.id != id) = w.archive.photos := by simpa using hid
    rw [hall] at hphotos
    rw [deletePhoto_run_of_missing hid]
    exact ⟨h.there, hphotos⟩

/-- Every call leaves a deleted event as it is, and of its photos all but the one that it deletes. -/
theorem call (c : ServiceCall) (h : Buried row ps w.supply w.archive) :
    Buried row (ps.filter fun p => !c.deletes p.id) (run taped c.program w).2.supply
      (run taped c.program w).2.archive := by
  have hregular := h.toRegular.call c
  by_cases hc : c.DeletesPhoto
  · obtain ⟨id, rfl⟩ := hc
    obtain ⟨hthere, hkept⟩ := h.deletePhoto id
    exact ⟨hregular, hthere, h.deleted, hkept⟩
  · have hall : ps.filter (fun p => !c.deletes p.id) = ps := by simp [ServiceCall.deletes_eq_false hc]
    rw [hall]
    obtain ⟨ms, us, hreads, heffect | ⟨-, hsame | ⟨p, bs, hclassified⟩⟩⟩ := ServiceCall.effect_or_classified (h := rfl)
    · obtain ⟨hthere, hkept⟩ := h.effect hreads hc heffect
      exact ⟨hregular, hthere, h.deleted, hkept⟩
    · refine ⟨hregular, ?_, h.deleted, ?_⟩
      · exact hsame ▸ h.there
      · exact hsame ▸ h.kept
    · refine ⟨hregular, ?_, h.deleted, ?_⟩
      · rw [hclassified]
        exact h.there
      · rw [hclassified, Archive.unmarked_classified]
        exact h.kept

/-- Every session leaves a deleted event as it is, and of its photos all but those that its calls delete. -/
theorem session (calls : List ServiceCall) (h : Buried row ps w.supply w.archive) :
    Buried row (ps.filter fun p => !calls.any (ServiceCall.deletes p.id)) (RaceAlbum.session taped calls w).2.supply
      (RaceAlbum.session taped calls w).2.archive := by
  induction calls generalizing w ps with
  | nil => simpa [RaceAlbum.session] using h
  | cons c rest ih =>
    have hrest := ih (h.call c)
    simp only [List.filter_filter, ← Bool.not_or] at hrest
    simp only [List.any_cons, Bool.or_comm (ServiceCall.deletes _ c)]
    exact hrest

end Buried

/-! ## Sessions -/

/-- An event that is deleted is buried with its photos. -/
theorem deleteEvent_buries {target id : Uuid} (hw : Regular w.supply w.archive)
    (h : run taped (EventService.delete target) w = (.ok id, w')) :
    ∃ row, row.id = target ∧ Buried row ((w.archive.photosOf target).map PhotoRow.unmarked) w'.supply w'.archive := by
  have hregular := hw.call (.deleteEvent target)
  change Regular (run taped (EventService.delete target) w).2.supply (run taped (EventService.delete target) w).2.archive
    at hregular
  rw [h] at hregular
  obtain ⟨e, w₁, hfind, h⟩ := run_bind_ok h
  obtain ⟨rfl, r, hr, -, hid, rfl⟩ := findEvent_ok hfind
  obtain ⟨e', w₂, hdelete, h⟩ := run_bind_ok h
  obtain ⟨s, ⟨ms, us, hd, -, -⟩, hid', -, haudit⟩ := softDelete_ok hdelete
  obtain ⟨hsave, -⟩ := saveEvent_run_ok h
  rw [hd.archive] at hsave
  have harchive := Archive.saveEvent_ok hsave
  have htarget : (EventRow.ofEntity e').id = target := hid'.trans hid
  refine ⟨.ofEntity e', htarget, hregular, ?_, ?_, ?_⟩
  · rw [harchive]
    exact mem_upsert.2 (.inl rfl)
  · simp [EventRow.isActive, EventRow.ofEntity, haudit]
  · rw [harchive, htarget]
    rfl

/-- What serves as one photo serves as any other that differs from it in its marks at most. -/
theorem World.Serves.of_unmarked {p r : PhotoRow} (h : w.Serves r) (hpr : r.unmarked = p.unmarked) : w.Serves p := by
  have hid : r.id = p.id := (congrArg PhotoRow.id hpr :)
  have hevent : r.eventId = p.eventId := (congrArg PhotoRow.eventId hpr :)
  have hname : r.filename = p.filename := (congrArg PhotoRow.filename hpr :)
  have hkey : r.storageKey = p.storageKey := (congrArg PhotoRow.storageKey hpr :)
  constructor
  · rw [← hid, ← hevent, ← hname]
    exact h.get
  · rw [← hid]
    exact h.classify
  · rw [← hid, ← hkey]
    exact h.delete

/-- Where no call deletes a photo by its identifier, the photo is not among those that the calls delete. -/
theorem any_deletes_eq_false {calls : List ServiceCall} {id : Uuid} (h : ServiceCall.deletePhoto id ∉ calls) :
    calls.any (ServiceCall.deletes id) = false := by
  rw [List.any_eq_false]
  intro c hc hdeletes
  unfold ServiceCall.deletes at hdeletes
  split at hdeletes
  · rename_i target
    rw [beq_iff_eq.1 hdeletes] at hc
    exact h hc
  · cases hdeletes

/-- Once an event is deleted, it is hidden in every later state, whatever calls are made: none finds it, and no page of events
or photos shows it or a photo of it. Its row stays as it is. No photo of it is added, and each of its photos stays, but for
the marks of a classification, until it is deleted by its own identifier; until then it can be read, classified and deleted. -/
theorem deleted_event_stays_hidden {deleted : World Tape} {e id : Uuid} (before : List ServiceCall)
    (hw : Regular w.supply w.archive)
    (hdelete : run taped (EventService.delete e) (session taped before w).2 = (.ok id, deleted)) :
    ∃ row : EventRow, row.isActive = false ∧ ∀ after : List ServiceCall,
      let later := (session taped after deleted).2
      later.Hides e ∧
      (∀ r, r ∈ later.archive.events ∧ r.id = e ↔ r = row) ∧
      (later.archive.photosOf e).map PhotoRow.unmarked =
        ((deleted.archive.photosOf e).map PhotoRow.unmarked).filter
          (fun p => !after.any (ServiceCall.deletes p.id)) ∧
      ∀ p ∈ deleted.archive.photosOf e, ServiceCall.deletePhoto p.id ∉ after → later.Serves p := by
  obtain ⟨row, rfl, hburied⟩ := deleteEvent_buries (hw.session before) hdelete
  refine ⟨row, hburied.deleted, fun after => ?_⟩
  have hlater := hburied.session after
  have hsame := hburied.kept
  refine ⟨World.hides_of_deleted hlater.constrained hlater.there hlater.deleted, fun r => ⟨?_, ?_⟩, ?_, ?_⟩
  · rintro ⟨hr, hid⟩
    exact List.inj_on_of_nodup_map hlater.constrained.eventIds hr hlater.there hid
  · rintro rfl
    exact ⟨hlater.there, rfl⟩
  · rw [hsame]
    exact hlater.kept
  · intro p hp hkept
    have hmem : p.unmarked ∈ ((session taped after deleted).2.archive.photosOf row.id).map PhotoRow.unmarked := by
      rw [hlater.kept, ← hsame]
      refine List.mem_filter.2 ⟨List.mem_map_of_mem hp, ?_⟩
      have hnone : after.any (ServiceCall.deletes p.unmarked.id) = false := any_deletes_eq_false hkept
      rw [hnone]
      rfl
    obtain ⟨r, hr, hrp⟩ := List.mem_map.1 hmem
    have hserves := World.serves_of_mem hlater.constrained hlater.unblocked (Archive.mem_photosOf.1 hr).1
    exact hserves.of_unmarked hrp

/-- An event with two photos. -/
def twoPhotos : List ServiceCall :=
  [.createEvent ⟨"Tour", .last, none⟩,
   .uploadPhotos (.ofNat 1) [⟨"a.jpg", "image/jpeg", [0]⟩, ⟨"b.jpg", "image/jpeg", [0]⟩]]

/-- After the event is deleted, one of its photos is classified, the other one deleted, and a third one sent. -/
def afterwards : List ServiceCall :=
  [.classify (.ofNat 3) [smallDetection], .deletePhoto (.ofNat 5),
   .uploadPhotos (.ofNat 1) [⟨"c.jpg", "image/jpeg", [0]⟩], .createEvent ⟨"Sprint", .last, none⟩]

/-- The deleted event is hidden afterwards, the photo that was classified is its only one, and it still serves. -/
theorem twoPhotos_stay_hidden :
    let before := (session taped twoPhotos ⟨smallTape, .empty, smallStorage⟩).2
    let deleted := (run taped (EventService.delete (.ofNat 1)) before).2
    let later := (session taped afterwards deleted).2
    (deleted.archive.photosOf (.ofNat 1)).map PhotoRow.id = [.ofNat 3, .ofNat 5] ∧
    later.archive.events.map EventRow.isActive = [false, true] ∧ later.Hides (.ofNat 1) ∧
    (later.archive.photosOf (.ofNat 1)).map (fun p => (p.id, p.status)) = [(.ofNat 3, .completed)] ∧
    ∃ p ∈ deleted.archive.photosOf (.ofNat 1), p.id = .ofNat 3 ∧ later.Serves p := by
  intro before deleted later
  have hregular : Regular smallTape .empty :=
    ⟨⟨by decide +kernel, by simp [Archive.empty], by simp [Archive.empty]⟩, .empty, rfl⟩
  have hok : (run taped (EventService.delete (.ofNat 1)) before).1.isOk = true := by decide +kernel
  obtain ⟨id, hdelete⟩ : ∃ id, run taped (EventService.delete (.ofNat 1)) before = (.ok id, deleted) := by
    rcases hrun : run taped (EventService.delete (.ofNat 1)) before with ⟨f | id, w'⟩
    · rw [hrun] at hok
      cases hok
    · exact ⟨id, by simp only [deleted, hrun]⟩
  obtain ⟨row, -, hall⟩ := deleted_event_stays_hidden (w := ⟨smallTape, .empty, smallStorage⟩) twoPhotos hregular hdelete
  obtain ⟨hhides, -, -, hserves⟩ := hall afterwards
  obtain ⟨p, hp, hid⟩ : ∃ p ∈ deleted.archive.photosOf (.ofNat 1), p.id = .ofNat 3 := by decide +kernel
  refine ⟨by decide +kernel, by decide +kernel, hhides, by decide +kernel, p, hp, hid, hserves p hp ?_⟩
  have hother : Uuid.ofNat 3 ≠ .ofNat 5 := by decide
  rw [hid]
  simp [afterwards, hother]

end RaceAlbum
