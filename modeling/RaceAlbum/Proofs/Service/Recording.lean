import RaceAlbum.Proofs.Archive.Shown
import RaceAlbum.Proofs.Service.Session

/-!
# Photos show what was recorded of them

The detections that a photo shows are those of all calls that classified it and succeeded, call by call and each call's in
their order. What every call keeps is `Recording`: the cyclists of each photo keep, in the order of their rows, what was
recorded of it. Rows of cyclists and of colours stand in the order of their creation, since the clock moves on; and what was
given an identifier is not mistaken for something else, since no identifier is given twice.
-/

namespace RaceAlbum

open Program

/-- What a call recorded of a photo. -/
def MadeCall.recorded (id : Uuid) : MadeCall → List Detection
  | ⟨.classify photoId ds, true⟩ => if photoId = id then ds else []
  | _ => []

/-- What calls recorded of a photo, call by call. -/
def recorded (id : Uuid) (made : List MadeCall) : List Detection := made.flatMap (MadeCall.recorded id)

theorem recorded_append (id : Uuid) (past : List MadeCall) (m : MadeCall) :
    recorded id (past ++ [m]) = recorded id past ++ m.recorded id := by
  simp [recorded]

/-- The cyclists of each photo keep what was recorded of it. -/
structure Recording (t : Tape) (a : Archive) (past : List MadeCall) : Prop where
  cyclistTimes : (a.cyclists.map CyclistRow.createdAt ++ t.moments).Pairwise fun m n => m.key < n.key
  colorTimes : (a.colors.map ColorRow.createdAt ++ t.moments).Pairwise fun m n => m.key < n.key
  cyclistIds : (a.cyclists.map CyclistRow.id ++ t.ids).Nodup
  photos : ∀ r ∈ a.photos, r.id ∉ t.ids
  cyclistPhotos : ∀ r ∈ a.cyclists, r.photoId ∉ t.ids
  plates : ∀ r ∈ a.plates, r.cyclistId ∉ t.ids
  colors : ∀ r ∈ a.colors, r.cyclistId ∉ t.ids
  kept : ∀ p ∈ a.photos, List.Forall₂ (CyclistRow.Keeps a) (a.cyclists.filter (Archive.ofPhoto p.id)) (recorded p.id past)
  unrecorded : ∀ id ∈ t.ids, recorded id past = []

variable {t t' : Tape} {ms : List Moment} {us : List Uuid} {a a' : Archive} {past : List MadeCall}

/-- What was taken off a tape, in its order, goes before what is left on it. -/
theorem pairwise_taken {α : Type} {R : α → α → Prop} {xs ys taken rest : List α}
    (h : (xs ++ (taken ++ rest)).Pairwise R) (hys : ys.Sublist taken) : ((xs ++ ys) ++ rest).Pairwise R := by
  rw [List.append_assoc]
  exact h.sublist ((List.Sublist.refl xs).append (hys.append (.refl rest)))

namespace Recording

/-- An identifier that was taken is not on the tape any more. -/
theorem not_mem_of_taken (h : Recording t a past) (hreads : t.Reads t' ms us) {id : Uuid} (hid : id ∈ us) : id ∉ t'.ids := by
  have hnodup := (List.nodup_append.1 (hreads.ids ▸ (List.nodup_append.1 h.cyclistIds).2.1)).2.2
  exact fun hid' => hnodup id hid id hid' rfl

/-- The tape goes on. -/
theorem later (h : Recording t a past) (hreads : t.Reads t' ms us) : Recording t' a past := by
  have hleft {id : Uuid} (hid : id ∉ t.ids) : id ∉ t'.ids :=
    fun hid' => hid (hreads.ids ▸ List.mem_append_right _ hid')
  have hcyclistTimes := pairwise_taken (hreads.moments ▸ h.cyclistTimes) (List.nil_sublist ms)
  have hcolorTimes := pairwise_taken (hreads.moments ▸ h.colorTimes) (List.nil_sublist ms)
  have hids := pairwise_taken (hreads.ids ▸ h.cyclistIds) (List.nil_sublist us)
  rw [List.append_nil] at hcyclistTimes hcolorTimes hids
  exact { h with
    cyclistTimes := hcyclistTimes
    colorTimes := hcolorTimes
    cyclistIds := hids
    photos := fun r hr => hleft (h.photos r hr)
    cyclistPhotos := fun r hr => hleft (h.cyclistPhotos r hr)
    plates := fun r hr => hleft (h.plates r hr)
    colors := fun r hr => hleft (h.colors r hr)
    unrecorded := fun id hid => h.unrecorded id (hreads.ids ▸ List.mem_append_right _ hid) }

/-- A call that records nothing leaves what was recorded. -/
theorem of_unrecorded {m : MadeCall} (h : Recording t a past) (hm : ∀ id, m.recorded id = []) :
    Recording t a (past ++ [m]) := by
  have hsame (id : Uuid) : recorded id (past ++ [m]) = recorded id past := by
    rw [recorded_append, hm, List.append_nil]
  exact { h with
    kept := fun p hp => hsame p.id ▸ h.kept p hp
    unrecorded := fun id hid => hsame id ▸ h.unrecorded id hid }

/-- Photos are added without cyclists, and nothing was recorded of them. -/
theorem storePhotos {ps : List Photo} (h : Recording t a past) (hreads : t.Reads t' ms us)
    (hsub : (ps.map Photo.id).Sublist us) (hmade : Made a (ps.map fun p a => a.storePhoto p) a') :
    Recording t' a' past := by
  have hids := (List.nodup_append.1 h.cyclistIds).2.1
  have hus := (List.nodup_append.1 (hreads.ids ▸ hids)).1
  have htaken : ∀ p ∈ ps, p.id ∈ us := fun p hp => hsub.subset (List.mem_map_of_mem hp)
  have hgiven : ∀ p ∈ ps, p.id ∈ t.ids := fun p hp => hreads.ids ▸ List.mem_append_left _ (htaken p hp)
  have hnew : ∀ p ∈ ps, ∀ r ∈ a.photos, r.id ≠ p.id := fun p hp r hr heq => h.photos r hr (heq ▸ hgiven p hp)
  rw [Archive.storePhotos_made hmade (hsub.nodup hus) hnew]
  have hlater := h.later hreads
  exact { hlater with
    photos := by
      refine List.forall_mem_append.2 ⟨hlater.photos, List.forall_mem_map.2 fun p hp => ?_⟩
      exact h.not_mem_of_taken hreads (htaken p hp)
    kept := by
      refine List.forall_mem_append.2 ⟨fun p hp => (hlater.kept p hp).imp fun _ _ hrd => hrd.of_sameParts rfl rfl,
        List.forall_mem_map.2 fun p hp => ?_⟩
      have hnone : a.cyclists.filter (Archive.ofPhoto p.id) = [] := List.filter_eq_nil_iff.2 fun c hc heq =>
        h.cyclistPhotos c hc (eq_of_beq heq ▸ hgiven p hp)
      change List.Forall₂ _ (a.cyclists.filter (Archive.ofPhoto p.id)) (recorded p.id past)
      rw [hnone, h.unrecorded p.id (hgiven p hp)]
      exact .nil }

/-- A photo is deleted with its cyclists, and those of other photos stay. -/
theorem deletePhoto {id : Uuid} (h : Recording t a past) (hdelete : a.deletePhoto id = .ok a') : Recording t a' past := by
  have hids := (List.nodup_append.1 h.cyclistIds).1
  have hkeeps {r : CyclistRow} {d : Detection} (hr : r ∈ a.cyclists) (hother : r.photoId ≠ id) (hrd : r.Keeps a d) :
      r.Keeps a' d := Archive.keeps_deleted hrd hids hr hother hdelete
  have ha' := Archive.deletePhoto_ok hdelete
  have hsub {α β : Type} (f : α → β) (p : α → Bool) (xs : List α) (ys : List β) :
      ((xs.filter p).map f ++ ys).Sublist (xs.map f ++ ys) := (List.filter_sublist.map f).append (.refl ys)
  constructor
  · exact ha' ▸ h.cyclistTimes.sublist (hsub _ _ _ _)
  · exact ha' ▸ h.colorTimes.sublist (hsub _ _ _ _)
  · exact ha' ▸ h.cyclistIds.sublist (hsub _ _ _ _)
  · exact ha' ▸ fun r hr => h.photos r (List.mem_filter.1 hr).1
  · exact ha' ▸ fun r hr => h.cyclistPhotos r (List.mem_filter.1 hr).1
  · exact ha' ▸ fun r hr => h.plates r (List.mem_filter.1 hr).1
  · exact ha' ▸ fun r hr => h.colors r (List.mem_filter.1 hr).1
  · intro p hp
    have hp : p ∈ a.photos ∧ p.id ≠ id := by
      rw [ha'] at hp
      simpa using List.mem_filter.1 hp
    have hsame : a'.cyclists.filter (Archive.ofPhoto p.id) = a.cyclists.filter (Archive.ofPhoto p.id) := by
      rw [ha']
      exact filter_filter_of_key (fun photoId => !(photoId == id)) (by simpa using hp.2)
    rw [hsame]
    refine forall₂_imp_of_mem (h.kept p hp.1) fun r hr d _ hrd => ?_
    obtain ⟨hr, hphoto⟩ := List.mem_filter.1 hr
    exact hkeeps hr (eq_of_beq hphoto ▸ hp.2) hrd
  · exact h.unrecorded

/-- A classification adds the cyclists that were reported to those of its photo, at the end. -/
theorem kept_classify {p : PhotoRow} {ds : List Detection} {m : Moment} {bs : List Bundle} (h : Recording t a past)
    (hds : ∀ d ∈ ds, d.InRange) (hmirrors : List.Forall₂ (Bundle.Mirrors p.id) bs ds)
    (hgiven : ∀ b ∈ bs, b.cyclist.id ∈ t.ids) (hnodup : (bs.map fun b => b.cyclist.id).Nodup) {q : PhotoRow}
    (hq : q ∈ a.photos) :
    List.Forall₂ (CyclistRow.Keeps (a.classified (p.classifiedAt m) bs))
      ((a.classified (p.classifiedAt m) bs).cyclists.filter (Archive.ofPhoto q.id))
      (recorded q.id (past ++ [⟨.classify p.id ds, true⟩])) := by
  have hparts : ∀ b ∈ bs, b.cyclist.photoId = p.id ∧ (∀ q ∈ b.plate, q.cyclistId = b.cyclist.id) ∧
      ∀ c ∈ b.colors, c.cyclistId = b.cyclist.id := fun b hb => by
    obtain ⟨d, -, hbd⟩ := exists_of_forall₂ hmirrors hb
    exact ⟨hbd.photoId, hbd.parts⟩
  -- The identifiers of the new cyclists are on the tape still, so that no row that is there has one of them.
  have hold : List.Forall₂ (CyclistRow.Keeps (a.classified (p.classifiedAt m) bs))
      (a.cyclists.filter (Archive.ofPhoto q.id)) (recorded q.id past) := by
    refine forall₂_imp_of_mem (h.kept q hq) fun r hr d _ hrd => ?_
    have hother : ∀ b ∈ bs, b.cyclist.id ≠ r.id := fun b hb heq =>
      (List.nodup_append.1 h.cyclistIds).2.2 r.id (List.mem_map_of_mem (List.mem_filter.1 hr).1) _ (hgiven b hb) heq.symm
    exact Archive.keeps_classified_of_other hrd (fun b hb e he => (hparts b hb).2.1 e he ▸ hother b hb)
      fun b hb c hc => (hparts b hb).2.2 c hc ▸ hother b hb
  have hnew : List.Forall₂ (CyclistRow.Keeps (a.classified (p.classifiedAt m) bs))
      (bs.map fun b => .ofEntity b.cyclist) ds := by
    rw [List.forall₂_map_left_iff]
    refine forall₂_imp_of_mem hmirrors fun b hb d hd hbd => ?_
    exact Archive.keeps_classified_of_mem hb hbd (hds d hd) (fun b hb => (hparts b hb).2) hnodup
      (fun s hs heq => h.plates s hs (heq ▸ hgiven b hb)) fun s hs heq => h.colors s hs (heq ▸ hgiven b hb)
  change List.Forall₂ _ ((a.cyclists ++ _).filter _) _
  rw [recorded_append]
  by_cases hpq : p.id = q.id
  · have hall : (bs.map fun b => CyclistRow.ofEntity b.cyclist).filter (Archive.ofPhoto q.id) =
        bs.map fun b => CyclistRow.ofEntity b.cyclist := by
      rw [List.filter_eq_self]
      exact List.forall_mem_map.2 fun b hb => beq_iff_eq.2 ((hparts b hb).1.trans hpq)
    have hrecorded : (MadeCall.mk (.classify p.id ds) true).recorded q.id = ds := if_pos hpq
    rw [List.filter_append, hall, hrecorded]
    exact List.rel_append hold hnew
  · have hrecorded : (MadeCall.mk (.classify p.id ds) true).recorded q.id = [] := if_neg hpq
    rw [filter_append_of_right, hrecorded, List.append_nil]
    · exact hold
    · exact List.forall_mem_map.2 fun b hb heq => hpq ((hparts b hb).1.symm.trans (beq_iff_eq.1 heq))

theorem classify {p : PhotoRow} {ds : List Detection} {m : Moment} {bs : List Bundle} (h : Recording t a past)
    (hreads : t.Reads t' ms us) (hp : p ∈ a.photos) (hds : ∀ d ∈ ds, d.InRange)
    (hmirrors : List.Forall₂ (Bundle.Mirrors p.id) bs ds) (hids : (bs.map fun b => b.cyclist.id).Sublist us)
    (hstamps : (bs.flatMap Bundle.stamps).Sublist (ms.map .ofUtc)) :
    Recording t' (a.classified (p.classifiedAt m) bs) (past ++ [⟨.classify p.id ds, true⟩]) := by
  have hlater := h.later hreads
  have htaken : ∀ b ∈ bs, b.cyclist.id ∈ us := fun b hb => hids.subset (List.mem_map_of_mem hb)
  have hgiven : ∀ b ∈ bs, b.cyclist.id ∈ t.ids := fun b hb => hreads.ids ▸ List.mem_append_left _ (htaken b hb)
  have hnodup : (bs.map fun b => b.cyclist.id).Nodup :=
    hids.nodup (List.nodup_append.1 (hreads.ids ▸ (List.nodup_append.1 h.cyclistIds).2.1)).1
  have hmirrored {b : Bundle} (hb : b ∈ bs) : ∃ d, b.Mirrors p.id d := by
    obtain ⟨d, -, hbd⟩ := exists_of_forall₂ hmirrors hb
    exact ⟨d, hbd⟩
  constructor
  · have hnew := wall_sublist ((cyclistStamps_sublist bs).trans hstamps)
    have htimes := pairwise_taken (hreads.moments ▸ h.cyclistTimes) hnew
    change ((a.cyclists ++ _).map _ ++ _).Pairwise _
    simpa [Function.comp_def, CyclistRow.ofEntity] using htimes
  · have hnew := wall_sublist ((colorStamps_sublist bs).trans hstamps)
    have htimes := pairwise_taken (hreads.moments ▸ h.colorTimes) hnew
    change ((a.colors ++ _).map _ ++ _).Pairwise _
    simpa [Function.comp_def, ColorRow.ofEntity] using htimes
  · have hall : (a.cyclists.map CyclistRow.id ++ (bs.map fun b => b.cyclist.id) ++ t'.ids).Nodup :=
      pairwise_taken (hreads.ids ▸ h.cyclistIds) hids
    change ((a.cyclists ++ _).map _ ++ _).Nodup
    simpa [Function.comp_def, CyclistRow.ofEntity] using hall
  · exact List.forall_mem_map.2 fun r hr hid => hlater.photos r hr (Archive.mark_id ▸ hid)
  · refine List.forall_mem_append.2 ⟨hlater.cyclistPhotos, List.forall_mem_map.2 fun b hb hid => ?_⟩
    obtain ⟨d, hbd⟩ := hmirrored hb
    exact hlater.photos p hp (hbd.photoId ▸ hid)
  · refine List.forall_mem_append.2 ⟨hlater.plates, List.forall_mem_map.2 fun q hq hid => ?_⟩
    obtain ⟨b, hb, hq⟩ := List.mem_filterMap.1 hq
    obtain ⟨d, hbd⟩ := hmirrored hb
    exact h.not_mem_of_taken hreads (htaken b hb) (hbd.parts.1 q hq ▸ hid)
  · refine List.forall_mem_append.2 ⟨hlater.colors, List.forall_mem_map.2 fun c hc hid => ?_⟩
    obtain ⟨b, hb, hc⟩ := List.mem_flatMap.1 hc
    obtain ⟨d, hbd⟩ := hmirrored hb
    exact h.not_mem_of_taken hreads (htaken b hb) (hbd.parts.2 c hc ▸ hid)
  · refine List.forall_mem_map.2 fun q hq => ?_
    rw [Archive.mark_id]
    exact h.kept_classify hds hmirrors hgiven hnodup hq
  · intro id hid
    have hne : p.id ≠ id := fun heq => hlater.photos p hp (heq ▸ hid)
    rw [recorded_append, hlater.unrecorded id hid]
    exact if_neg hne

/-- Every call keeps the recording. -/
theorem effect {c : ServiceCall} {succeeded : Bool} (hc : c.IsChecked) (h : Recording t a past)
    (hreads : t.Reads t' ms us) (heffect : Effect a ms us c succeeded a') :
    Recording t' a' (past ++ [⟨c, succeeded⟩]) := by
  have hnothing (hother : ∀ id ds, c = .classify id ds → succeeded = false) (id : Uuid) :
      (MadeCall.mk c succeeded).recorded id = [] := by
    unfold MadeCall.recorded
    split
    · rename_i heq
      cases heq
      cases hother _ _ rfl
    · rfl
  cases heffect with
  | nothing hother => exact (h.later hreads).of_unrecorded (hnothing hother)
  | eventSaved hother _ _ _ hsave =>
    have hlater := h.later hreads
    rw [Archive.saveEvent_ok hsave]
    exact of_unrecorded { hlater with
      kept := fun p hp => (hlater.kept p hp).imp fun _ _ hrd => hrd.of_sameParts rfl rfl }
      (hnothing fun id ds heq => absurd heq (hother id ds))
  | photosStored _ _ hsub hmade => exact (h.storePhotos hreads hsub hmade).of_unrecorded (hnothing nofun)
  | photoDeleted hdelete => exact ((h.later hreads).deletePhoto hdelete).of_unrecorded (hnothing nofun)
  | @classified id _ p _ _ _ hphoto _ hmirrors hids hstamps hmade =>
    have hid : p.id = id := by simpa using List.find?_some hphoto
    rw [Archive.classification_made hmade, ← hid]
    exact h.classify hreads (List.mem_of_find?_eq_some hphoto) (Detection.Accepted.inRange hc) hmirrors hids hstamps

end Recording

/-! ## Sessions -/

/-- A photo that is there is shown with the cyclists of its rows. -/
theorem getPhoto_run {w : World Tape} {p : PhotoRow} (hp : p ∈ w.archive.photos) :
    ∃ detail w', run taped (PhotoService.get p.id) w = (.ok detail, w') ∧
      detail.cyclists = (w.archive.cyclistsOf p.id).map w.archive.cyclistView := by
  obtain ⟨r, hr⟩ : ∃ r, w.archive.photo? p.id = some r := by
    rw [← Option.isSome_iff_exists, Archive.photo?, List.find?_isSome]
    exact ⟨p, hp, by simp⟩
  have hshow : run taped (call (.showPhoto p.id)) w =
      (.ok (some (r.detail ((w.archive.cyclistsOf p.id).map w.archive.cyclistView))), w) := by
    change (Except.ok (w.archive.photoDetail? p.id), w) = _
    rw [Archive.photoDetail?, hr]
    rfl
  exact ⟨_, _, (run_bind_of_ok hshow).trans rfl, rfl⟩

/-- Whatever checked calls are made one after the other, every photo that is there at the end shows exactly the detections
that were recorded of it by the calls that classified it and succeeded: call by call, each call's in the order in which it
reported them, each of them once, and each as it was reported, with its numbers rounded. The clock moves on at each reading,
and no identifier is given twice. -/
theorem session_shows_recorded (calls : List ServiceCall) (t : Tape) (s : Storage) (hcalls : ∀ c ∈ calls, c.IsChecked)
    (hclock : t.moments.Pairwise fun m n => m.key < n.key) (hids : t.ids.Nodup) :
    let ended := session taped calls ⟨t, .empty, s⟩
    ∀ p ∈ ended.2.archive.photos, ∃ detail w', run taped (PhotoService.get p.id) ended.2 = (.ok detail, w') ∧
      List.Forall₂ CyclistView.Shows detail.cyclists (recorded p.id ended.1) := by
  have hstart : Recording t .empty [] := by
    constructor <;> simp [Archive.empty, recorded, hclock, hids]
  have hend := session_keeps (I := Recording) Recording.effect hcalls (w := ⟨t, .empty, s⟩) hstart
  intro ended p hp
  obtain ⟨detail, w', hrun, hcyclists⟩ := getPhoto_run hp
  have hcyclistOrder := List.pairwise_map.1 (List.pairwise_append.1 hend.cyclistTimes).1
  have hcolorOrder := List.pairwise_map.1 (List.pairwise_append.1 hend.colorTimes).1
  refine ⟨detail, w', hrun, ?_⟩
  rw [hcyclists, Archive.cyclistsOf, sortByKey_eq_self (hcyclistOrder.filter _), List.forall₂_map_left_iff]
  exact (hend.kept p hp).imp fun r d hrd => hrd.shows hcolorOrder

/-- The photo of the small session shows the three cyclists that two calls reported. -/
theorem smallSession_shows_recorded :
    let ended := session taped smallSession ⟨smallTape, .empty, smallStorage⟩
    (∃ p ∈ ended.2.archive.photos, p.id = .ofNat 3) ∧
      ∃ detail w', run taped (PhotoService.get (.ofNat 3)) ended.2 = (.ok detail, w') ∧
        List.Forall₂ CyclistView.Shows detail.cyclists [smallDetection, smallDetection, smallDetection] := by
  intro ended
  have h := session_shows_recorded smallSession smallTape smallStorage smallSession_isChecked (by decide +kernel)
    (by decide +kernel)
  obtain ⟨p, hp, hid⟩ : ∃ p ∈ ended.2.archive.photos, p.id = .ofNat 3 := by decide +kernel
  have hrecorded : recorded (.ofNat 3) ended.1 = [smallDetection, smallDetection, smallDetection] := by decide +kernel
  obtain ⟨detail, w', hrun, hshows⟩ := h p hp
  rw [hid] at hrun hshows
  exact ⟨⟨p, hp, hid⟩, detail, w', hrun, hrecorded ▸ hshows⟩

end RaceAlbum
