import RaceAlbum.Proofs.Archive.Pages
import RaceAlbum.Proofs.Detection.Ranges
import RaceAlbum.Proofs.Service.Effects
import RaceAlbum.Proofs.Service.Recordable
import RaceAlbum.Proofs.World.Takes

/-!
# Accepted classifications are recorded

What was accepted can be kept: the limits of the form are those of the rules and of the tables, also for what is no number.
So a classification of a photo that is there succeeds whenever its identifiers are new (`classify_run`); it needs a reading
and an identifier for each entity, and one more reading to mark the photo.
-/

namespace RaceAlbum

open Program

/-- How many entities are made of a detection. -/
def Detection.entities (d : Detection) : Nat := 1 + d.plate.toList.length + d.colors.length

/-- How many entities are made of detections. -/
def Detection.entitiesOf (ds : List Detection) : Nat := (ds.map Detection.entities).sum

/-- The identifiers on a tape differ from each other, and no part of a classification has one of them. -/
structure Tape.IsNewTo (t : Tape) (a : Archive) : Prop where
  nodup : t.ids.Nodup
  parts : ∀ id ∈ t.ids, a.IsNewPart id

/-! ## What is drawn -/

/-- A new cyclist takes a moment and an identifier. -/
theorem createCyclist_takes (photoId : Uuid) (box : BoundingBox) (confidence : Binary64) :
    Takes 1 1 (Cyclist.create photoId box confidence) :=
  Takes.ofTakeId.bind fun _ => Takes.ofReadClock.map _

/-- So does a new plate whose number is in the range. -/
theorem createPlate_takes {p : PlateDetection} (cyclistId : Uuid) (hp : 1 ≤ p.number ∧ p.number ≤ 999) :
    Takes 1 1 (Plate.create cyclistId p) := by
  have hrange : (!(p.number < plateNumberMin || plateNumberMax < p.number)) = true := by
    have hmin : ¬p.number < plateNumberMin := Int.not_lt.2 hp.1
    have hmax : ¬plateNumberMax < p.number := Int.not_lt.2 hp.2
    simp [hmin, hmax]
  unfold Plate.create
  rw [require_bind_of hrange]
  exact Takes.ofTakeId.bind fun _ => Takes.ofReadClock.map _

/-- So does a new plate, if there is one. -/
theorem createPlate?_takes {d? : Option PlateDetection} (cyclistId : Uuid)
    (hd : ∀ d ∈ d?, 1 ≤ d.number ∧ d.number ≤ 999) :
    Takes d?.toList.length d?.toList.length
      (match d? with
        | none => pure none
        | some d => some <$> Plate.create cyclistId d) := by
  cases d? with
  | none => exact .done none
  | some d => exact (createPlate_takes cyclistId (hd d rfl)).map some

/-- A piece of equipment is found by its name. -/
theorem EquipmentItem.ofName_text (item : EquipmentItem) : ofName item.text = .ok item := by
  cases item <;> rfl

/-- A new colour that passes its checks takes a moment and an identifier. -/
theorem createColor_takes {c : ColorDetection} (cyclistId : Uuid) (hc : c.Passes) :
    Takes 1 1 (EquipmentColor.create cyclistId c) := by
  obtain ⟨item, hitem⟩ := hc.item
  have hrange : (!(c.density.lt (.ofInt densityMin) || (Binary64.ofInt densityMax).lt c.density)) = true :=
    Binary64.fits_iff.2 hc.density
  unfold EquipmentColor.create
  rw [require_bind_of hrange, hitem, EquipmentItem.ofName_text]
  exact Takes.ofTakeId.bind fun _ => Takes.ofReadClock.map _

/-- The bundle of a detection that passes its checks takes as many as it has entities. -/
theorem ofDetection_takes {d : Detection} (photoId : Uuid) (hd : d.Passes) :
    Takes d.entities d.entities (Bundle.ofDetection photoId d) := by
  have hcolors (cyclistId : Uuid) :
      Takes d.colors.length d.colors.length (forAll (EquipmentColor.create cyclistId) d.colors) := by
    have hall := Takes.forAll (fun _ => 1) fun c hc => createColor_takes cyclistId (hd.colors c hc)
    simpa using hall
  unfold Detection.entities Bundle.ofDetection
  rw [Nat.add_assoc]
  refine (createCyclist_takes photoId d.box d.confidence).bind fun c => ?_
  have hparts := (createPlate?_takes c.id hd.plateNumber).bind fun p? =>
    (hcolors c.id).map fun cs => Bundle.mk c p? cs
  cases hd : d.plate with
  | none =>
    rw [hd] at hparts
    exact hparts
  | some p =>
    rw [hd] at hparts
    exact hparts

/-- So do the bundles of several, all of which can be made. -/
theorem ofDetections_takes {ds : List Detection} (photoId : Uuid) (hds : ∀ d ∈ ds, d.InRange ∧ d.NamesEquipment) :
    Takes (Detection.entitiesOf ds) (Detection.entitiesOf ds) (forAll (Bundle.ofDetection photoId) ds) :=
  .forAll Detection.entities fun d hd => ofDetection_takes photoId ((hds d hd).1.passes (hds d hd).2)

/-- To complete a photo takes a moment. -/
theorem complete_takes (p : Photo) : Takes 1 0 p.complete := Takes.ofReadClock.map _

/-! ## What is recorded -/

/-- What was made of a detection whose numbers lie in their ranges can be recorded. -/
theorem Bundle.Mirrors.recordable {photoId : Uuid} {b : Bundle} {d : Detection} (h : b.Mirrors photoId d)
    (hd : d.InRange) : b.Recordable photoId := by
  refine ⟨h.photoId, ?_, fun p hp => ⟨h.parts.1 p hp, ?_⟩, fun c hc => ⟨h.parts.2 c hc, ?_⟩⟩
  · rw [h.confidence]
    exact hd.confidence.ne_nan
  · obtain ⟨q, hq, hpq⟩ := exists_of_rel h.plate hp
    have hrange := hd.plateNumber q hq
    rw [hpq.number]
    exact isInt64_iff.2 (by omega)
  · obtain ⟨k, hk, hck⟩ := exists_of_forall₂ h.colors hc
    rw [hck.density]
    exact (hd.density k hk).ne_nan

/-- What is made of detections on a tape of new identifiers, rows and objects staying as they are. -/
theorem ofDetections_run {w : World Tape} {ds : List Detection} {m n : Nat} (photoId : Uuid)
    (hds : ∀ d ∈ ds, d.InRange ∧ d.NamesEquipment) (hnew : w.supply.IsNewTo w.archive)
    (hholds : w.supply.Holds (Detection.entitiesOf ds + m) (Detection.entitiesOf ds + n)) :
    ∃ bs w', run taped (forAll (Bundle.ofDetection photoId) ds) w = (.ok bs, w') ∧ w'.supply.Holds m n ∧
      w'.archive = w.archive ∧ w'.storage = w.storage ∧ List.Forall₂ (Bundle.Mirrors photoId) bs ds ∧
      (bs.flatMap Bundle.ids).Nodup ∧ ∀ id ∈ bs.flatMap Bundle.ids, w.archive.IsNewPart id := by
  obtain ⟨bs, w', hrun, hleft⟩ := (ofDetections_takes photoId hds).run hholds
  obtain ⟨⟨ms, us, hd, hids, -⟩, hmirrors⟩ := ofDetections_ok hrun
  have htaken : (bs.flatMap Bundle.ids).Sublist w.supply.ids := by
    rw [hd.reads.ids]
    exact hids.trans (List.sublist_append_left _ _)
  exact ⟨bs, w', hrun, hleft, hd.archive, hd.storage, hmirrors, htaken.nodup hnew.nodup,
    fun id hid => hnew.parts id (htaken.subset hid)⟩

/-- A photo that is there is found. -/
theorem findPhoto_run {w : World Tape} {p : PhotoRow} (ha : w.archive.Constrained) (hp : p ∈ w.archive.photos) :
    run taped (PhotoService.find p.id) w = (.ok p.entity, w) := by
  have hfind : run taped (call (.findPhoto p.id)) w = (.ok (some p.entity), w) := by
    change (Except.ok ((w.archive.photo? p.id).map PhotoRow.entity), w) = _
    rw [ha.photo?_eq hp]
    rfl
  exact (run_bind_of_ok hfind).trans rfl

/-- A photo that has no row is not found. -/
theorem findPhoto_run_of_missing {w : World Tape} {id : Uuid} (hid : ∀ r ∈ w.archive.photos, r.id ≠ id) :
    run taped (PhotoService.find id) w = (.error (.notFound PhotoService.entity id), w) := by
  have hask : run taped (call (.findPhoto id)) w = (.ok none, w) := by
    have hnone : w.archive.photo? id = none := by simpa [Archive.photo?] using hid
    change (Except.ok ((w.archive.photo? id).map PhotoRow.entity), w) = _
    rw [hnone]
    rfl
  exact (run_bind_of_ok hask).trans rfl

/-- The classification of a photo that is there succeeds for all detections that can be kept: the photo is marked, and what
was made of the detections is added. -/
theorem classify_run {w : World Tape} {p : PhotoRow} {ds : List Detection} {m n : Nat} (ha : w.archive.Constrained)
    (hblocks : w.archive.blocks = []) (hp : p ∈ w.archive.photos) (hds : ∀ d ∈ ds, d.InRange ∧ d.NamesEquipment)
    (hnew : w.supply.IsNewTo w.archive)
    (hholds : w.supply.Holds (Detection.entitiesOf ds + (1 + m)) (Detection.entitiesOf ds + n)) :
    ∃ w' t bs, run taped (ClassificationService.classify p.id ds) w = (.ok p.id, w') ∧
      w'.archive = w.archive.classified (p.classifiedAt t) bs ∧ List.Forall₂ (Bundle.Mirrors p.id) bs ds ∧
      w'.storage = w.storage ∧ w'.supply.Holds m n := by
  obtain ⟨bs, w₁, hbundles, hleft, harchive, hstorage, hmirrors, hids, hnewIds⟩ :=
    ofDetections_run p.id hds hnew hholds
  have hleft : w₁.supply.Holds (1 + m) (0 + n) := by rwa [Nat.zero_add]
  obtain ⟨q, w₂, hcomplete, hleft⟩ := (complete_takes p.entity).run hleft
  obtain ⟨s, ⟨ms, us, hd, -, hs⟩, hq⟩ := complete_ok hcomplete
  obtain ⟨t, -, rfl⟩ := List.mem_map.1 (List.singleton_sublist.1 hs)
  have hrow : PhotoRow.ofEntity q = p.classifiedAt t := by
    simp [hq, PhotoRow.ofEntity, PhotoRow.entity, PhotoRow.classifiedAt, Stamp.ofUtc, Function.comp_def]
  have hbs : ∀ b ∈ bs, b.Recordable p.id := fun b hb => by
    obtain ⟨d, hd, hbd⟩ := exists_of_forall₂ hmirrors hb
    exact hbd.recordable (hds d hd).1
  have hthere : (p.classifiedAt t).id ∈ w.archive.photos.map PhotoRow.id := List.mem_map.2 ⟨p, hp, rfl⟩
  have hanswer : Archive.answer (.saveClassification q bs) w.archive =
      (.ok (), w.archive.classified (p.classifiedAt t) bs) := by
    change w.archive.transact (Archive.classification (PhotoRow.ofEntity q) bs) = _
    rw [hrow]
    exact Archive.transact_eq_ok_iff.2 (Archive.classification_made_of_new ha hblocks hthere hbs hids hnewIds)
  have hsave : run taped (call (.saveClassification q bs)) w₂ =
      (.ok (), { w₂ with archive := w.archive.classified (p.classifiedAt t) bs }) := by
    rw [run_call, taped, World.answerWith_archive rfl, hd.archive.trans harchive, hanswer]
  have hid : q.id = p.id := by
    rw [hq]
    rfl
  refine ⟨{ w₂ with archive := w.archive.classified (p.classifiedAt t) bs }, t, bs, ?_, rfl, hmirrors,
    hd.storage.trans hstorage, hleft⟩
  refine (run_bind_of_ok (findPhoto_run ha hp)).trans ((run_bind_of_ok hbundles).trans ((run_bind_of_ok hcomplete).trans
    ((run_bind_of_ok hsave).trans ?_)))
  rw [hid]
  rfl

end RaceAlbum
