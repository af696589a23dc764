import RaceAlbum.Proofs.Archive.Batches
import RaceAlbum.Proofs.Archive.Constrained
import RaceAlbum.Proofs.Detection.Ranges
import RaceAlbum.Proofs.Service.Entities

/-!
# Classifications that are recorded

A row is added where no constraint refuses it, and so are rows one after the other if the constraints hold of all of them
together. A classification is recorded if its photo is there, its numbers are numbers, and its identifiers are new
(`classification_made_of_new`).
-/

namespace RaceAlbum

/-- Statements of one kind are made one after the other, where `P` is what they need and `f` says what they do together. -/
theorem Made.of_map {ι : Type} {s : ι → Statement} {f : List ι → Archive → Archive} {P : List ι → Archive → Prop}
    (hnil : ∀ a, f [] a = a)
    (hstep : ∀ i is a, P (i :: is) a → ∃ a₁, s i a = .ok a₁ ∧ P is a₁ ∧ f is a₁ = f (i :: is) a) {is : List ι}
    {a : Archive} (ha : P is a) : Made a (is.map s) (f is a) := by
  induction is generalizing a with
  | nil =>
    rw [hnil]
    exact .nil a
  | cons i is ih =>
    obtain ⟨a₁, hs, hP, hf⟩ := hstep i is a ha
    rw [← hf]
    exact .cons hs (ih hP)

/-- No two of the rows that are there and of those that are to be added have the same key. -/
theorem nodup_keys_cons {ρ : Type} {key : ρ → Uuid} {rows rs : List ρ} {r : ρ} :
    (rows.map key ++ (r :: rs).map key).Nodup ↔ ((rows ++ [r]).map key ++ rs.map key).Nodup := by
  simp

/-- The key of a row that is to be added is new. -/
theorem not_mem_of_nodup_keys {ρ : Type} {key : ρ → Uuid} {rows rs : List ρ} {r : ρ}
    (h : (rows.map key ++ (r :: rs).map key).Nodup) : ∀ s ∈ rows, key s ≠ key r := fun _ hs =>
  (List.nodup_append.1 h).2.2 _ (List.mem_map_of_mem hs) _ List.mem_cons_self

namespace Archive

variable {a : Archive}

/-- Where no change is forbidden, each is allowed. -/
theorem isBlocked_of_unblocked (ha : a.blocks = []) (t : Table) (c : TableChange) : (!a.isBlocked t c) = true := by
  rw [isBlocked, ha]
  rfl

/-! ## Rows one by one -/

/-- A cyclist with a new identifier is added to a photo that is there. No column keeps what is no number. -/
theorem addCyclist_of_new {r : CyclistRow} (ha : a.blocks = []) (hid : ∀ s ∈ a.cyclists, s.id ≠ r.id)
    (hconfidence : r.confidence ≠ .nan) (hphoto : r.photoId ∈ a.photos.map PhotoRow.id) :
    a.addCyclist r = .ok { a with cyclists := a.cyclists ++ [r] } := by
  have hnew : (!a.hasCyclist r.id) = true := by simpa [hasCyclist] using hid
  have hthere : a.hasPhoto r.photoId = true := hasPhoto_iff.2 (List.mem_map.1 hphoto)
  unfold addCyclist ensureAllowed
  rw [ensure_bind_of (isBlocked_of_unblocked ha _ _), ensure_bind_of (bne_iff_ne.2 hconfidence), ensure_bind_of hnew,
    ensure_bind_of hthere]
  rfl

/-- So is a colour to a cyclist that is there. -/
theorem addColor_of_new {r : ColorRow} (ha : a.blocks = []) (hid : ∀ s ∈ a.colors, s.id ≠ r.id)
    (hdensity : r.density ≠ .nan) (hcyclist : r.cyclistId ∈ a.cyclists.map CyclistRow.id) :
    a.addColor r = .ok { a with colors := a.colors ++ [r] } := by
  have hnew : (!a.colors.any fun s => s.id == r.id) = true := by simpa using hid
  have hthere : a.hasCyclist r.cyclistId = true := hasCyclist_iff.2 (List.mem_map.1 hcyclist)
  unfold addColor ensureAllowed
  rw [ensure_bind_of (isBlocked_of_unblocked ha _ _), ensure_bind_of (bne_iff_ne.2 hdensity), ensure_bind_of hnew,
    ensure_bind_of hthere]
  rfl

/-- So is a plate to a cyclist that has none, if the column holds its number. -/
theorem addPlate_of_new {r : PlateRow} (ha : a.blocks = []) (hid : ∀ s ∈ a.plates, s.id ≠ r.id)
    (hplate : ∀ s ∈ a.plates, s.cyclistId ≠ r.cyclistId) (hnumber : isInt64 r.number = true)
    (hcyclist : r.cyclistId ∈ a.cyclists.map CyclistRow.id) :
    a.addPlate r = .ok { a with plates := a.plates ++ [r] } := by
  have hinteger : ([r.number].all isInt64) = true := by simpa using hnumber
  have hnew : (!a.plates.any fun s => s.id == r.id) = true := by simpa using hid
  have hfirst : (!a.plates.any fun s => s.cyclistId == r.cyclistId) = true := by simpa using hplate
  have hthere : a.hasCyclist r.cyclistId = true := hasCyclist_iff.2 (List.mem_map.1 hcyclist)
  unfold addPlate ensureIntegers ensureAllowed
  rw [ensure_bind_of hinteger, ensure_bind_of (isBlocked_of_unblocked ha _ _), ensure_bind_of hfirst,
    ensure_bind_of hnew, ensure_bind_of hthere]
  rfl

/-- A photo is marked where no statement is blocked. -/
theorem markPhoto_of_unblocked (ha : a.blocks = []) (id : Uuid) (status : PhotoStatus)
    (reason : Option UnclassifiedReason) (processedAt : Option Moment) :
    a.markPhoto id status reason processedAt =
      .ok { a with photos := a.photos.map (mark id status reason processedAt) } := by
  have hallowed : (!(a.hasPhoto id && a.isBlocked .photos .update)) = true := by simp [isBlocked, ha]
  unfold markPhoto
  rw [ensure_bind_of hallowed]
  rfl

/-! ## Rows of one kind, one after the other -/

/-- Cyclists with new identifiers, of which no two are the same, are added one after the other. -/
theorem addCyclists_of_new (rs : List CyclistRow) (ha : a.blocks = [])
    (hids : (a.cyclists.map CyclistRow.id ++ rs.map CyclistRow.id).Nodup) (hconfidence : ∀ r ∈ rs, r.confidence ≠ .nan)
    (hphoto : ∀ r ∈ rs, r.photoId ∈ a.photos.map PhotoRow.id) :
    Made a (rs.map fun r a => a.addCyclist r) { a with cyclists := a.cyclists ++ rs } := by
  refine Made.of_map (f := fun rs a => { a with cyclists := a.cyclists ++ rs })
    (P := fun rs b => b.blocks = [] ∧ (b.cyclists.map CyclistRow.id ++ rs.map CyclistRow.id).Nodup ∧
      (∀ r ∈ rs, r.confidence ≠ .nan) ∧ ∀ r ∈ rs, r.photoId ∈ b.photos.map PhotoRow.id) (by simp) ?_
    ⟨ha, hids, hconfidence, hphoto⟩
  rintro r rs b ⟨hb, hids, hconfidence, hphoto⟩
  obtain ⟨hconfidence, hconfidences⟩ := List.forall_mem_cons.1 hconfidence
  obtain ⟨hphoto, hphotos⟩ := List.forall_mem_cons.1 hphoto
  exact ⟨_, addCyclist_of_new hb (not_mem_of_nodup_keys hids) hconfidence hphoto,
    ⟨hb, nodup_keys_cons.1 hids, hconfidences, hphotos⟩, by simp⟩

/-- So are colours. -/
theorem addColors_of_new (rs : List ColorRow) (ha : a.blocks = [])
    (hids : (a.colors.map ColorRow.id ++ rs.map ColorRow.id).Nodup) (hdensity : ∀ r ∈ rs, r.density ≠ .nan)
    (hcyclist : ∀ r ∈ rs, r.cyclistId ∈ a.cyclists.map CyclistRow.id) :
    Made a (rs.map fun r a => a.addColor r) { a with colors := a.colors ++ rs } := by
  refine Made.of_map (f := fun rs a => { a with colors := a.colors ++ rs })
    (P := fun rs b => b.blocks = [] ∧ (b.colors.map ColorRow.id ++ rs.map ColorRow.id).Nodup ∧
      (∀ r ∈ rs, r.density ≠ .nan) ∧ ∀ r ∈ rs, r.cyclistId ∈ b.cyclists.map CyclistRow.id) (by simp) ?_
    ⟨ha, hids, hdensity, hcyclist⟩
  rintro r rs b ⟨hb, hids, hdensity, hcyclist⟩
  obtain ⟨hdensity, hdensities⟩ := List.forall_mem_cons.1 hdensity
  obtain ⟨hcyclist, hcyclists⟩ := List.forall_mem_cons.1 hcyclist
  exact ⟨_, addColor_of_new hb (not_mem_of_nodup_keys hids) hdensity hcyclist,
    ⟨hb, nodup_keys_cons.1 hids, hdensities, hcyclists⟩, by simp⟩

/-- So are plates, no two for one cyclist. -/
theorem addPlates_of_new (rs : List PlateRow) (ha : a.blocks = [])
    (hids : (a.plates.map PlateRow.id ++ rs.map PlateRow.id).Nodup)
    (hfirst : (a.plates.map PlateRow.cyclistId ++ rs.map PlateRow.cyclistId).Nodup)
    (hnumber : ∀ r ∈ rs, isInt64 r.number = true) (hcyclist : ∀ r ∈ rs, r.cyclistId ∈ a.cyclists.map CyclistRow.id) :
    Made a (rs.map fun r a => a.addPlate r) { a with plates := a.plates ++ rs } := by
  refine Made.of_map (f := fun rs a => { a with plates := a.plates ++ rs })
    (P := fun rs b => b.blocks = [] ∧ (b.plates.map PlateRow.id ++ rs.map PlateRow.id).Nodup ∧
      (b.plates.map PlateRow.cyclistId ++ rs.map PlateRow.cyclistId).Nodup ∧ (∀ r ∈ rs, isInt64 r.number = true) ∧
      ∀ r ∈ rs, r.cyclistId ∈ b.cyclists.map CyclistRow.id) (by simp) ?_ ⟨ha, hids, hfirst, hnumber, hcyclist⟩
  rintro r rs b ⟨hb, hids, hfirst, hnumber, hcyclist⟩
  obtain ⟨hnumber, hnumbers⟩ := List.forall_mem_cons.1 hnumber
  obtain ⟨hcyclist, hcyclists⟩ := List.forall_mem_cons.1 hcyclist
  exact ⟨_, addPlate_of_new hb (not_mem_of_nodup_keys hids) (not_mem_of_nodup_keys hfirst) hnumber hcyclist,
    ⟨hb, nodup_keys_cons.1 hids, nodup_keys_cons.1 hfirst, hnumbers, hcyclists⟩, by simp⟩

/-! ## Classifications -/

/-- No cyclist, no plate and no colour has the identifier. -/
structure IsNewPart (a : Archive) (id : Uuid) : Prop where
  cyclist : ∀ r ∈ a.cyclists, r.id ≠ id
  plate : ∀ r ∈ a.plates, r.id ≠ id
  color : ∀ r ∈ a.colors, r.id ≠ id

/-- Whether an identifier is new can be checked. -/
instance (a : Archive) (id : Uuid) : Decidable (a.IsNewPart id) :=
  decidable_of_iff ((∀ r ∈ a.cyclists, r.id ≠ id) ∧ (∀ r ∈ a.plates, r.id ≠ id) ∧ ∀ r ∈ a.colors, r.id ≠ id)
    ⟨fun ⟨h₁, h₂, h₃⟩ => ⟨h₁, h₂, h₃⟩, fun ⟨h₁, h₂, h₃⟩ => ⟨h₁, h₂, h₃⟩⟩

end Archive

/-- The rows of a bundle refer to its photo and to its cyclist, and its numbers can be kept. -/
structure Bundle.Recordable (photoId : Uuid) (b : Bundle) : Prop where
  photoId : b.cyclist.photoId = photoId
  confidence : b.cyclist.confidence ≠ .nan
  plate : ∀ p ∈ b.plate, p.cyclistId = b.cyclist.id ∧ isInt64 p.number = true
  colors : ∀ c ∈ b.colors, c.cyclistId = b.cyclist.id ∧ c.density ≠ .nan

/-- The identifiers of plates are among those of their bundles, in the same order. -/
theorem plateIds_sublist (bs : List Bundle) :
    ((bs.filterMap Bundle.plate).map Plate.id).Sublist (bs.flatMap Bundle.ids) := by
  induction bs with
  | nil => exact .slnil
  | cons b bs ih =>
    cases hb : b.plate with
    | none =>
      rw [List.filterMap_cons_none hb]
      exact ih.trans (List.sublist_append_right _ _)
    | some p =>
      rw [List.filterMap_cons_some hb, List.flatMap_cons, Bundle.ids, hb]
      exact ((ih.trans (List.sublist_append_right _ _)).cons_cons p.id).cons _

/-- So are those of colours. -/
theorem colorIds_sublist (bs : List Bundle) :
    ((bs.flatMap Bundle.colors).map EquipmentColor.id).Sublist (bs.flatMap Bundle.ids) := by
  rw [List.map_flatMap]
  induction bs with
  | nil => exact .slnil
  | cons b bs ih => exact ((List.sublist_append_right _ _).cons _).append ih

/-- The plates of bundles refer to their cyclists, in the order of the bundles. -/
theorem plateCyclists_sublist {bs : List Bundle} (hbs : ∀ b ∈ bs, ∀ p ∈ b.plate, p.cyclistId = b.cyclist.id) :
    ((bs.filterMap Bundle.plate).map Plate.cyclistId).Sublist (bs.map fun b => b.cyclist.id) := by
  induction bs with
  | nil => exact .slnil
  | cons b bs ih =>
    obtain ⟨hb, hbs⟩ := List.forall_mem_cons.1 hbs
    cases hplate : b.plate with
    | none =>
      rw [List.filterMap_cons_none hplate]
      exact (ih hbs).cons _
    | some p =>
      rw [List.filterMap_cons_some hplate, List.map_cons, List.map_cons, hb p hplate]
      exact (ih hbs).cons_cons _

namespace Archive

variable {a : Archive}

/-- New keys that differ from each other are added to those that are there. -/
theorem nodup_keys_append_new {ρ : Type} {key : ρ → Uuid} {rows : List ρ} {ids : List Uuid} (hrows : (rows.map key).Nodup)
    (hids : ids.Nodup) (hnew : ∀ id ∈ ids, ∀ r ∈ rows, key r ≠ id) : (rows.map key ++ ids).Nodup := by
  rw [List.nodup_append]
  refine ⟨hrows, hids, ?_⟩
  rw [List.forall_mem_map]
  exact fun r hr id hid => hnew id hid r hr

variable {bs : List Bundle} {photoId : Uuid}

/-- The cyclists of bundles are added to the photo that they are of. -/
theorem bundleCyclists_made (hblocks : a.blocks = []) (hkeys : (a.cyclists.map CyclistRow.id).Nodup)
    (hp : photoId ∈ a.photos.map PhotoRow.id) (hbs : ∀ b ∈ bs, b.Recordable photoId)
    (hids : (bs.flatMap Bundle.ids).Nodup) (hnew : ∀ id ∈ bs.flatMap Bundle.ids, ∀ r ∈ a.cyclists, r.id ≠ id) :
    Made a (bs.map fun b a => a.addCyclist (.ofEntity b.cyclist))
      { a with cyclists := a.cyclists ++ bs.map fun b => .ofEntity b.cyclist } := by
  have hmade := addCyclists_of_new (bs.map fun b => .ofEntity b.cyclist) hblocks ?_ ?_ ?_
  · rwa [List.map_map] at hmade
  · rw [List.map_map]
    exact nodup_keys_append_new hkeys ((cyclistIds_sublist bs).nodup hids) fun id hid =>
      hnew id ((cyclistIds_sublist bs).subset hid)
  · exact List.forall_mem_map.2 fun b hb => Binary64.withoutZeroSign_ne_nan (hbs b hb).confidence
  · refine List.forall_mem_map.2 fun b hb => ?_
    have hphoto : (CyclistRow.ofEntity b.cyclist).photoId = photoId := (hbs b hb).photoId
    exact hphoto ▸ hp

/-- The colours of bundles are added where their cyclists are there. -/
theorem bundleColors_made (hblocks : a.blocks = []) (hkeys : (a.colors.map ColorRow.id).Nodup)
    (hcyclists : ∀ b ∈ bs, b.cyclist.id ∈ a.cyclists.map CyclistRow.id) (hbs : ∀ b ∈ bs, b.Recordable photoId)
    (hids : (bs.flatMap Bundle.ids).Nodup) (hnew : ∀ id ∈ bs.flatMap Bundle.ids, ∀ r ∈ a.colors, r.id ≠ id) :
    Made a ((bs.flatMap Bundle.colors).map fun c a => a.addColor (.ofEntity c))
      { a with colors := a.colors ++ (bs.flatMap Bundle.colors).map .ofEntity } := by
  have hmade := addColors_of_new ((bs.flatMap Bundle.colors).map .ofEntity) hblocks ?_ ?_ ?_
  · rwa [List.map_map] at hmade
  · rw [List.map_map]
    exact nodup_keys_append_new hkeys ((colorIds_sublist bs).nodup hids) fun id hid =>
      hnew id ((colorIds_sublist bs).subset hid)
  · refine List.forall_mem_map.2 fun c hc => ?_
    obtain ⟨b, hb, hc⟩ := List.mem_flatMap.1 hc
    exact Binary64.withoutZeroSign_ne_nan ((hbs b hb).colors c hc).2
  · refine List.forall_mem_map.2 fun c hc => ?_
    obtain ⟨b, hb, hc⟩ := List.mem_flatMap.1 hc
    have hcyclist : (ColorRow.ofEntity c).cyclistId = b.cyclist.id := ((hbs b hb).colors c hc).1
    exact hcyclist ▸ hcyclists b hb

/-- The plates of bundles are added where their cyclists are there and have no plates yet. -/
theorem bundlePlates_made (hblocks : a.blocks = []) (hkeys : (a.plates.map PlateRow.id).Nodup)
    (hone : (a.plates.map PlateRow.cyclistId).Nodup)
    (hfirst : ∀ b ∈ bs, ∀ r ∈ a.plates, r.cyclistId ≠ b.cyclist.id)
    (hcyclists : ∀ b ∈ bs, b.cyclist.id ∈ a.cyclists.map CyclistRow.id) (hbs : ∀ b ∈ bs, b.Recordable photoId)
    (hids : (bs.flatMap Bundle.ids).Nodup) (hnew : ∀ id ∈ bs.flatMap Bundle.ids, ∀ r ∈ a.plates, r.id ≠ id) :
    Made a ((bs.filterMap Bundle.plate).map fun p a => a.addPlate (.ofEntity p))
      { a with plates := a.plates ++ (bs.filterMap Bundle.plate).map .ofEntity } := by
  have hmade := addPlates_of_new ((bs.filterMap Bundle.plate).map .ofEntity) hblocks ?_ ?_ ?_ ?_
  · rwa [List.map_map] at hmade
  · rw [List.map_map]
    exact nodup_keys_append_new hkeys ((plateIds_sublist bs).nodup hids) fun id hid =>
      hnew id ((plateIds_sublist bs).subset hid)
  · have hsub := plateCyclists_sublist fun b hb q hq => ((hbs b hb).plate q hq).1
    rw [List.map_map]
    refine nodup_keys_append_new hone (hsub.nodup ((cyclistIds_sublist bs).nodup hids)) fun id hid => ?_
    obtain ⟨b, hb, rfl⟩ := List.mem_map.1 (hsub.subset hid)
    exact hfirst b hb
  · refine List.forall_mem_map.2 fun q hq => ?_
    obtain ⟨b, hb, hq⟩ := List.mem_filterMap.1 hq
    exact ((hbs b hb).plate q hq).2
  · refine List.forall_mem_map.2 fun q hq => ?_
    obtain ⟨b, hb, hq⟩ := List.mem_filterMap.1 hq
    have hcyclist : (PlateRow.ofEntity q).cyclistId = b.cyclist.id := ((hbs b hb).plate q hq).1
    exact hcyclist ▸ hcyclists b hb

/-- A classification of a photo that is there is recorded where its numbers can be kept and its identifiers are new. -/
theorem classification_made_of_new {p : PhotoRow} (ha : a.Constrained) (hblocks : a.blocks = [])
    (hp : p.id ∈ a.photos.map PhotoRow.id) (hbs : ∀ b ∈ bs, b.Recordable p.id) (hids : (bs.flatMap Bundle.ids).Nodup)
    (hnew : ∀ id ∈ bs.flatMap Bundle.ids, a.IsNewPart id) : Made a (classification p bs) (a.classified p bs) := by
  have hmarked : p.id ∈ (a.photos.map (mark p.id p.status p.unclassifiedReason p.processedAt)).map PhotoRow.id := by
    rw [List.map_map]
    obtain ⟨q, hq, hid⟩ := List.mem_map.1 hp
    exact List.mem_map.2 ⟨q, hq, mark_id.trans hid⟩
  -- The colours and the plates refer to the cyclists that were just added, so the three kinds are taken in their order.
  have hadded : ∀ b ∈ bs, b.cyclist.id ∈ (a.cyclists ++ bs.map fun b => CyclistRow.ofEntity b.cyclist).map CyclistRow.id :=
    fun b hb => List.mem_map.2 ⟨.ofEntity b.cyclist, List.mem_append_right _ (List.mem_map_of_mem hb), rfl⟩
  have hfirst : ∀ b ∈ bs, ∀ r ∈ a.plates, r.cyclistId ≠ b.cyclist.id := by
    intro b hb r hr heq
    obtain ⟨s, hs, hid⟩ := List.mem_map.1 (ha.plateCyclist r hr)
    exact (hnew _ ((cyclistIds_sublist bs).subset (List.mem_map_of_mem hb))).cyclist s hs (hid.trans heq)
  rw [classification_eq, made_cons_iff]
  exact ⟨_, markPhoto_of_unblocked hblocks .., made_append_iff.2 ⟨_, made_append_iff.2 ⟨_,
    bundleCyclists_made hblocks ha.cyclistIds hmarked hbs hids fun id hid => (hnew id hid).cyclist,
    bundleColors_made hblocks ha.colorIds hadded hbs hids fun id hid => (hnew id hid).color⟩,
    bundlePlates_made hblocks ha.plateIds ha.onePlate hfirst hadded hbs hids fun id hid => (hnew id hid).plate⟩⟩

end Archive

end RaceAlbum
