import RaceAlbum.Proofs.Archive.Batches
import RaceAlbum.Proofs.Service.Session

/-!
# Sessions keep archives consistent

What every call keeps is an archive that is consistent, together with what the clock told so far: no event was created later
than what is still to be read (`Kept`). That only classified photos have cyclists needs identifiers that are given once
(`Unmixed`), for a photo that is given the identifier of another one takes its place.
-/

namespace RaceAlbum

open Program

/-- Only photos that are classified have cyclists. -/
def Archive.OnlyClassifiedHaveCyclists (a : Archive) : Prop :=
  ∀ c ∈ a.cyclists, ∀ r ∈ a.photos, r.id = c.photoId → r.status = .completed

/-- A consistent archive, and a clock that does not go back from what it told. -/
structure Kept (t : Tape) (a : Archive) : Prop where
  consistent : a.Consistent
  clock : t.moments.Pairwise fun m n => m.key ≤ n.key
  past : ∀ r ∈ a.events, ∀ m ∈ t.moments, r.createdAt.key ≤ m.key

/-- Only classified photos have cyclists, and no photo has an identifier that is still to be given. -/
structure Unmixed (t : Tape) (a : Archive) : Prop where
  classified : a.OnlyClassifiedHaveCyclists
  ids : t.ids.Nodup
  photos : ∀ r ∈ a.photos, r.id ∉ t.ids

variable {t t' : Tape} {ms : List Moment} {us : List Uuid} {a a' : Archive}

/-! ## What is written is sound -/

/-- An event that is written when the clock has not gone back has a sound row. -/
theorem EventRow.WrittenAt.sound {m : Moment} {r : EventRow} (ha : a.Consistent)
    (hpast : ∀ s ∈ a.events, s.createdAt.key ≤ m.key) (h : r.WrittenAt a m) : r.Sound := by
  obtain ⟨hupdated, hdeleted, horigin⟩ := h
  have hname : isEventName r.name = true := by
    rcases horigin with ⟨hname, -⟩ | ⟨s, hs, -, hname⟩
    · exact hname
    · exact hname (isEventName_iff.2 (ha.soundEvents s hs).name)
  have hcreated : r.createdAt.key ≤ m.key := by
    rcases horigin with ⟨-, rfl⟩ | ⟨s, hs, heq, -⟩
    · exact Nat.le_refl _
    · exact heq ▸ hpast s hs
  refine ⟨isEventName_iff.1 hname, hupdated ▸ hcreated, fun d hd => ?_⟩
  have heq : d = r.updatedAt := (hdeleted d hd).trans hupdated.symm
  exact Nat.le_of_eq (congrArg Moment.key heq)

/-- A photo that was prepared has a sound row. -/
theorem Photo.Prepared.sound {eventId : Uuid} {p : Photo} {file : UploadedFile} (h : p.Prepared eventId file) :
    (PhotoRow.ofEntity p).Sound := by
  constructor
  · simpa [PhotoRow.ofEntity, h.filename] using h.holdsText
  · simpa [PhotoRow.ofEntity, h.mimeType, acceptedMimeTypes] using h.accepted
  · simpa [PhotoRow.ofEntity, h.fileSize] using h.nonempty
  · simp [PhotoRow.ofEntity, h.status, h.processedAt]
  · simp [PhotoRow.ofEntity, h.status]
  · simp [PhotoRow.ofEntity, h.reason]

/-- What was made of a detection whose numbers lie in their ranges has sound rows. -/
theorem Bundle.Mirrors.sound {photoId : Uuid} {b : Bundle} {d : Detection} (h : b.Mirrors photoId d) (hd : d.InRange) :
    b.Sound := by
  constructor
  · have hconfidence : (CyclistRow.ofEntity b.cyclist).confidence = d.confidence.withoutZeroSign :=
      congrArg Binary64.withoutZeroSign h.confidence
    exact ⟨hconfidence ▸ hd.confidence.withoutZeroSign⟩
  · intro p hp
    obtain ⟨q, hq, hpq⟩ := exists_of_rel h.plate hp
    have hnumber : (PlateRow.ofEntity p).number = q.number := hpq.number
    refine ⟨hnumber ▸ hd.plateNumber q hq, fun x hx => ?_⟩
    obtain ⟨y, hy, rfl⟩ := Option.map_eq_some_iff.1 hx
    exact (hd.plateConfidence q hq y (hpq.confidence ▸ (Option.mem_filter_iff.1 hy).1)).withoutZeroSign
  · intro c hc
    obtain ⟨k, hk, hck⟩ := exists_of_forall₂ h.colors hc
    have hdensity : (ColorRow.ofEntity c).density = k.density.withoutZeroSign :=
      congrArg Binary64.withoutZeroSign hck.density
    exact ⟨hdensity ▸ (hd.density k hk).withoutZeroSign⟩

/-! ## What every call keeps -/

/-- The tape goes on. -/
theorem Kept.later (h : Kept t a) (hreads : t.Reads t' ms us) : Kept t' a where
  consistent := h.consistent
  clock := (List.pairwise_append.1 (hreads.moments ▸ h.clock)).2.1
  past := fun r hr m hm => h.past r hr m (hreads.moments ▸ List.mem_append_right _ hm)

/-- Statements that leave the events as they are leave the past as it is. -/
theorem Kept.of_sameEvents (h : Kept t a) (ha : a'.Consistent) (hevents : a'.events = a.events) : Kept t a' where
  consistent := ha
  clock := h.clock
  past := hevents ▸ h.past

/-- Storing photos keeps an archive consistent and its events as they are. -/
theorem Archive.Consistent.storePhotos {eventId : Uuid} {ps : List Photo} (ha : a.Consistent)
    (hps : ∀ p ∈ ps, ∃ file, p.Prepared eventId file) (h : Made a (ps.map fun p a => a.storePhoto p) a') :
    a'.Consistent ∧ a'.events = a.events := by
  refine h.keeps (P := fun b => b.Consistent ∧ b.events = a.events) (fun s hs b b' hb hmade => ?_) ⟨ha, rfl⟩
  obtain ⟨p, hp, rfl⟩ := List.mem_map.1 hs
  obtain ⟨file, hfile⟩ := hps p hp
  refine ⟨hb.1.storePhoto hfile.sound hmade, ?_⟩
  rw [(savePhoto_ok (storePhoto_eq_ok_iff.1 hmade)).1]
  exact hb.2

theorem Kept.effect {c : ServiceCall} {succeeded : Bool} (hc : c.IsChecked) (h : Kept t a) (hreads : t.Reads t' ms us)
    (heffect : Effect a ms us c succeeded a') : Kept t' a' := by
  cases heffect with
  | nothing _ => exact h.later hreads
  | @eventSaved _ _ e m _ _ _ hm hwritten hsave =>
    have htape : ∀ n ∈ t'.moments, m.key ≤ n.key :=
      (List.pairwise_append.1 (hreads.moments ▸ h.clock)).2.2 m hm
    have hmt : m ∈ t.moments := hreads.moments ▸ List.mem_append_left _ hm
    refine ⟨h.consistent.saveEvent (hwritten.sound h.consistent fun s hs => h.past s hs m hmt) hsave,
      (h.later hreads).clock, fun r hr n hn => ?_⟩
    rw [Archive.saveEvent_ok hsave] at hr
    rcases mem_upsert.1 hr with rfl | ⟨hr, -⟩
    · rcases hwritten.origin with ⟨-, heq⟩ | ⟨s, hs, heq, -⟩
      · exact heq ▸ htape n hn
      · exact heq ▸ (h.later hreads).past s hs n hn
    · exact (h.later hreads).past r hr n hn
  | photosStored _ hps _ hmade =>
    obtain ⟨hconsistent, hevents⟩ := h.consistent.storePhotos hps hmade
    exact (h.later hreads).of_sameEvents hconsistent hevents
  | photoDeleted hdelete =>
    refine (h.later hreads).of_sameEvents (h.consistent.deletePhoto hdelete) ?_
    rw [Archive.deletePhoto_ok hdelete]
  | classified _ _ hmirrors _ _ hmade =>
    refine (h.later hreads).of_sameEvents (h.consistent.classification (fun b hb => ?_) hmade) ?_
    · obtain ⟨d, hd, hbd⟩ := exists_of_forall₂ hmirrors hb
      exact hbd.sound (Detection.Accepted.inRange hc d hd)
    · rw [Archive.classification_made hmade]
      rfl

/-! ## What every call keeps where identifiers are given once -/

/-- The tape goes on, and no photo has an identifier that it still holds. -/
theorem Unmixed.later (h : Unmixed t a) (hreads : t.Reads t' ms us) : Unmixed t' a where
  classified := h.classified
  ids := (List.nodup_append.1 (hreads.ids ▸ h.ids)).2.1
  photos := fun r hr hid => h.photos r hr (hreads.ids ▸ List.mem_append_right _ hid)

theorem Unmixed.effect {c : ServiceCall} {succeeded : Bool} (hkept : Kept t a) (h : Unmixed t a)
    (hreads : t.Reads t' ms us) (heffect : Effect a ms us c succeeded a') : Unmixed t' a' := by
  have hlater := h.later hreads
  cases heffect with
  | nothing _ => exact hlater
  | eventSaved _ _ _ _ hsave =>
    rw [Archive.saveEvent_ok hsave]
    exact ⟨hlater.classified, hlater.ids, hlater.photos⟩
  | @photosStored _ _ _ ps _ _ _ hsub hmade =>
    obtain ⟨hus, -, hapart⟩ := List.nodup_append.1 (hreads.ids ▸ h.ids)
    have htaken : ∀ p ∈ ps, p.id ∈ us := fun p hp => hsub.subset (List.mem_map_of_mem hp)
    have hnew : ∀ p ∈ ps, ∀ r ∈ a.photos, r.id ≠ p.id := fun p hp r hr heq =>
      h.photos r hr (heq ▸ hreads.ids ▸ List.mem_append_left _ (htaken p hp))
    rw [Archive.storePhotos_made hmade (hsub.nodup hus) hnew]
    refine ⟨fun c hc r hr hid => ?_, hlater.ids, List.forall_mem_append.2 ⟨hlater.photos, ?_⟩⟩
    · rcases List.mem_append.1 hr with hr | hr
      · exact h.classified c hc r hr hid
      · obtain ⟨p, hp, rfl⟩ := List.mem_map.1 hr
        obtain ⟨s, hs, hsid⟩ := hkept.consistent.cyclistPhoto c hc
        exact absurd (hsid.trans hid.symm) (hnew p hp s hs)
    · rw [List.forall_mem_map]
      exact fun p hp hid => hapart _ (htaken p hp) _ hid rfl
  | photoDeleted hdelete =>
    rw [Archive.deletePhoto_ok hdelete]
    exact ⟨fun c hc r hr => h.classified c (List.mem_filter.1 hc).1 r (List.mem_filter.1 hr).1, hlater.ids,
      fun r hr => hlater.photos r (List.mem_filter.1 hr).1⟩
  | @classified _ _ p m bs _ _ _ hmirrors _ _ hmade =>
    rw [Archive.classification_made hmade]
    refine ⟨fun c hc => ?_, hlater.ids, ?_⟩
    · change ∀ r ∈ a.photos.map (Archive.mark _ _ _ _), _
      rw [List.forall_mem_map]
      intro r hr hid
      rw [Archive.mark_id] at hid
      unfold Archive.mark
      split
      · rfl
      · rcases List.mem_append.1 hc with hc | hc
        · exact h.classified c hc r hr hid
        · obtain ⟨b, hb, rfl⟩ := List.mem_map.1 hc
          obtain ⟨d, -, hbd⟩ := exists_of_forall₂ hmirrors hb
          exact absurd (hid.trans hbd.photoId) ‹_›
    · change ∀ r ∈ a.photos.map (Archive.mark _ _ _ _), _
      rw [List.forall_mem_map]
      intro r hr
      rw [Archive.mark_id]
      exact hlater.photos r hr

/-! ## Sessions -/

/-- Whatever checked calls are made one after the other, in whatever order and whether they succeed or fail, the archive that
they leave is consistent, provided that the clock does not go back: every reference leads to a row, no two photos of an event
have the same file name, no cyclist has two plates, and every row is sound. Where no identifier is given twice, only photos
that are classified have cyclists. -/
theorem session_keeps_consistent (calls : List ServiceCall) (t : Tape) (s : Storage)
    (hcalls : ∀ c ∈ calls, c.IsChecked) (hclock : t.moments.Pairwise fun m n => m.key ≤ n.key) :
    let a := (session taped calls ⟨t, .empty, s⟩).2.archive
    a.Consistent ∧ (t.ids.Nodup → a.OnlyClassifiedHaveCyclists) := by
  have hstart : Kept t .empty := ⟨Archive.empty_consistent, hclock, by simp [Archive.empty]⟩
  have hkept := session_keeps (I := fun t a _ => Kept t a) (fun hc h hreads heffect => h.effect hc hreads heffect) hcalls
    (w := ⟨t, .empty, s⟩) hstart
  refine ⟨hkept.consistent, fun hids => ?_⟩
  have hboth := session_keeps (I := fun t a _ => Kept t a ∧ Unmixed t a) (fun hc h hreads heffect =>
    ⟨h.1.effect hc hreads heffect, h.2.effect h.1 hreads heffect⟩) hcalls (w := ⟨t, .empty, s⟩)
    ⟨hstart, by simp [Archive.OnlyClassifiedHaveCyclists, Archive.empty], hids, by simp [Archive.empty]⟩
  exact hboth.2.classified

/-- The small session leaves a consistent archive with three cyclists on one photo. -/
theorem smallSession_keeps_consistent :
    let a := (session taped smallSession ⟨smallTape, .empty, smallStorage⟩).2.archive
    (a.photos.length = 1 ∧ a.cyclists.length = 3) ∧ a.Consistent ∧ a.OnlyClassifiedHaveCyclists := by
  have h := session_keeps_consistent smallSession smallTape smallStorage smallSession_isChecked (by decide +kernel)
  exact ⟨by decide +kernel, h.1, h.2 (by decide +kernel)⟩

end RaceAlbum
