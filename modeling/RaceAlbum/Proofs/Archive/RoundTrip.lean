import RaceAlbum.Proofs.Archive.SavedPhotos
import RaceAlbum.Proofs.Archive.Shown
import RaceAlbum.Proofs.Number.Rounding
import RaceAlbum.Proofs.Service.Classified
import RaceAlbum.Proofs.Service.EventRuns
import RaceAlbum.Proofs.Service.Recordable

/-!
# Entities that are written and read back

A row drops the offsets of its stamps and the sign of a zero, and gives its scores back rounded. So an entity whose stamps are of
universal time and whose scores lie in their ranges is read back as it was, with its scores rounded
(`CyclistRow.entity_ofEntity` and its kin). What was read is read back as it is, since to round twice is to round once. This
holds of the rows that are written to an archive as well (`entities_are_read_back`).
-/

namespace RaceAlbum

/-! ## Rounded entities -/

/-- A score to some decimal places. A zero has no sign. -/
def Binary64.rounded (places : Nat) (x : Binary64) : Binary64 := x.withoutZeroSign.roundPlaces places

/-- A cyclist with its confidence rounded. -/
def Cyclist.rounded (c : Cyclist) : Cyclist := { c with confidence := c.confidence.rounded confidencePlaces }

/-- A plate with its confidence rounded. -/
def Plate.rounded (p : Plate) : Plate :=
  { p with confidence := p.confidence.map (Binary64.rounded confidencePlaces) }

/-- A colour with its share rounded. -/
def EquipmentColor.rounded (c : EquipmentColor) : EquipmentColor := { c with density := c.density.rounded densityPlaces }

/-- A cyclist with its plate and its colours, all their scores rounded. -/
def Bundle.rounded (b : Bundle) : Bundle := ⟨b.cyclist.rounded, b.plate.map Plate.rounded, b.colors.map EquipmentColor.rounded⟩

/-- An event that a table can keep: its stamps are of universal time and its numbers have 64 bits. -/
structure Event.Storable (e : Event) : Prop where
  utc : ∀ s ∈ e.audit.stamps, s.offset = some .utc
  totalPhotos : isInt64 e.totalPhotos = true
  processedPhotos : isInt64 e.processedPhotos = true

/-- A cyclist that a table can keep: it was created at a moment of universal time, and its confidence is in its range. -/
structure Cyclist.Storable (c : Cyclist) : Prop where
  createdAt : c.createdAt.offset = some .utc
  confidence : c.confidence.Between 0 1

/-- A plate that a table can keep. -/
structure Plate.Storable (p : Plate) : Prop where
  createdAt : p.createdAt.offset = some .utc
  correctedAt : ∀ s ∈ p.correctedAt, s.offset = some .utc
  number : isInt64 p.number = true
  confidence : ∀ x ∈ p.confidence, x.Between 0 1

/-- A colour that a table can keep. -/
structure EquipmentColor.Storable (c : EquipmentColor) : Prop where
  createdAt : c.createdAt.offset = some .utc
  density : c.density.Between 0 100

/-- A cyclist that can be kept with its plate and its colours, which refer to it. -/
structure Bundle.Storable (b : Bundle) : Prop where
  cyclist : b.cyclist.Storable
  plate : ∀ p ∈ b.plate, p.Storable ∧ p.cyclistId = b.cyclist.id
  colors : ∀ c ∈ b.colors, c.Storable ∧ c.cyclistId = b.cyclist.id

namespace Binary64

variable {n places : Nat} {x : Binary64}

/-- A score stays in its range. -/
theorem Between.rounded (hplaces : n * tenPow places ≤ twoPow 52) (h : x.Between 0 n) : (x.rounded places).Between 0 n :=
  h.withoutZeroSign.roundPlaces hplaces

/-- A score is rounded once. -/
theorem Between.rounded_twice (hpos : 0 < n) (hn : n * tenPow places < twoPow 52) (h : x.Between 0 n) :
    (x.rounded places).rounded places = x.rounded places := by
  have hsmall : n ≤ twoPow 52 :=
    Nat.le_trans (Nat.le_mul_of_pos_right n (tenPow_pos places)) (Nat.le_of_lt hn)
  have hsign : (x.rounded places).isNegative = false :=
    (isNegative_roundPlaces places _).trans (h.isNegative_withoutZeroSign hsmall)
  calc (x.rounded places).rounded places
      = (x.rounded places).roundPlaces places := by rw [Binary64.rounded, withoutZeroSign_eq hsign]
    _ = x.rounded places := h.withoutZeroSign.roundPlaces_twice hpos hn

end Binary64

/-- A confidence is rounded once. -/
theorem confidence_twice {x : Binary64} (h : x.Between 0 1) :
    (x.rounded confidencePlaces).rounded confidencePlaces = x.rounded confidencePlaces :=
  Binary64.Between.rounded_twice (n := 1) (by decide) (by decide) h

/-- A share is rounded once. -/
theorem density_twice {x : Binary64} (h : x.Between 0 100) :
    (x.rounded densityPlaces).rounded densityPlaces = x.rounded densityPlaces :=
  Binary64.Between.rounded_twice (n := 100) (by decide) (by decide) h

/-- A confidence stays in its range. -/
theorem confidence_rounded {x : Binary64} (h : x.Between 0 1) : (x.rounded confidencePlaces).Between 0 1 :=
  Binary64.Between.rounded (n := 1) (by decide) h

/-- A share stays in its range. -/
theorem density_rounded {x : Binary64} (h : x.Between 0 100) : (x.rounded densityPlaces).Between 0 100 :=
  Binary64.Between.rounded (n := 100) (by decide) h

/-! ## Rows -/

/-- Stamps of universal time that may be missing are read back. -/
theorem map_ofUtc_wall {s? : Option Stamp} (h : ∀ s ∈ s?, s.offset = some .utc) :
    (s?.map Stamp.wall).map Stamp.ofUtc = s? := by
  cases s? with
  | none => rfl
  | some s => exact congrArg some (Stamp.ofUtc_wall (h s rfl))

namespace Event.Storable

variable {e : Event}

theorem createdAt (h : e.Storable) : e.audit.createdAt.offset = some .utc := h.utc _ (by simp [Audit.stamps])

theorem updatedAt (h : e.Storable) : e.audit.updatedAt.offset = some .utc := h.utc _ (by simp [Audit.stamps])

theorem deletedAt (h : e.Storable) : ∀ s ∈ e.audit.deletedAt, s.offset = some .utc := fun s hs =>
  h.utc s (List.mem_append_right _ (Option.mem_toList.2 hs))

/-- An event is read back from its row. -/
theorem entity_ofEntity (h : e.Storable) : (EventRow.ofEntity e).entity = e := by
  simp only [EventRow.entity, EventRow.ofEntity, Stamp.ofUtc_wall h.createdAt, Stamp.ofUtc_wall h.updatedAt,
    map_ofUtc_wall h.deletedAt]

/-- No stamp of the event is without an offset. -/
theorem assumeUtc_eq (h : e.Storable) : e.assumeUtc = e := by
  have hdeleted : e.audit.deletedAt.map Stamp.assumeUtc = e.audit.deletedAt :=
    (Option.map_congr fun s hs => Stamp.assumeUtc_eq (h.deletedAt s hs)).trans Option.map_id'
  simp only [Event.assumeUtc, Audit.assumeUtc, Stamp.assumeUtc_eq h.createdAt, Stamp.assumeUtc_eq h.updatedAt, hdeleted]

/-- The numbers of its row have 64 bits. -/
theorem integers (h : e.Storable) : (EventRow.ofEntity e).integers.all isInt64 = true := by
  simp [EventRow.integers, EventRow.ofEntity, h.totalPhotos, h.processedPhotos]

end Event.Storable

namespace Cyclist.Storable

variable {c : Cyclist}

/-- A cyclist is read back from its row with its confidence rounded. -/
theorem entity_ofEntity (h : c.Storable) : (CyclistRow.ofEntity c).entity = c.rounded := by
  simp only [CyclistRow.entity, CyclistRow.ofEntity, CyclistRow.shownConfidence, Stamp.ofUtc_wall h.createdAt, rounded,
    Binary64.rounded]

theorem rounded (h : c.Storable) : c.rounded.Storable := ⟨h.createdAt, confidence_rounded h.confidence⟩

theorem rounded_twice (h : c.Storable) : c.rounded.rounded = c.rounded := by
  simp only [Cyclist.rounded, confidence_twice h.confidence]

end Cyclist.Storable

namespace Plate.Storable

variable {p : Plate}

/-- A plate is read back from its row with its confidence rounded. -/
theorem entity_ofEntity (h : p.Storable) : (PlateRow.ofEntity p).entity = p.rounded := by
  have hkept : p.confidence.filter (· != Binary64.nan) = p.confidence := by
    cases hx : p.confidence with
    | none => rfl
    | some x => simp [(h.confidence x hx).ne_nan]
  simp only [PlateRow.entity, PlateRow.ofEntity, PlateRow.shownConfidence, hkept, Stamp.ofUtc_wall h.createdAt,
    map_ofUtc_wall h.correctedAt, rounded, Option.map_map]
  rfl

theorem rounded (h : p.Storable) : p.rounded.Storable where
  createdAt := h.createdAt
  correctedAt := h.correctedAt
  number := h.number
  confidence x hx := by
    obtain ⟨y, hy, rfl⟩ := Option.map_eq_some_iff.1 hx
    exact confidence_rounded (h.confidence y hy)

theorem rounded_twice (h : p.Storable) : p.rounded.rounded = p.rounded := by
  have hconfidence : (p.confidence.map (Binary64.rounded confidencePlaces)).map (Binary64.rounded confidencePlaces) =
      p.confidence.map (Binary64.rounded confidencePlaces) := by
    rw [Option.map_map]
    exact Option.map_congr fun x hx => confidence_twice (h.confidence x hx)
  simp only [Plate.rounded, hconfidence]

end Plate.Storable

namespace EquipmentColor.Storable

variable {c : EquipmentColor}

/-- A colour is read back from its row with its share rounded. -/
theorem entity_ofEntity (h : c.Storable) : (ColorRow.ofEntity c).entity = c.rounded := by
  simp only [ColorRow.entity, ColorRow.ofEntity, ColorRow.shownDensity, Stamp.ofUtc_wall h.createdAt, rounded, Binary64.rounded]

theorem rounded (h : c.Storable) : c.rounded.Storable := ⟨h.createdAt, density_rounded h.density⟩

theorem rounded_twice (h : c.Storable) : c.rounded.rounded = c.rounded := by
  simp only [EquipmentColor.rounded, density_twice h.density]

end EquipmentColor.Storable

namespace Bundle.Storable

variable {b : Bundle}

theorem rounded (h : b.Storable) : b.rounded.Storable where
  cyclist := h.cyclist.rounded
  plate p hp := by
    obtain ⟨q, hq, rfl⟩ := Option.map_eq_some_iff.1 hp
    exact ⟨(h.plate q hq).1.rounded, (h.plate q hq).2⟩
  colors c hc := by
    obtain ⟨d, hd, rfl⟩ := List.mem_map.1 hc
    exact ⟨(h.colors d hd).1.rounded, (h.colors d hd).2⟩

/-- To round all scores twice is to round them once. -/
theorem rounded_twice (h : b.Storable) : b.rounded.rounded = b.rounded := by
  have hplate : (b.plate.map Plate.rounded).map Plate.rounded = b.plate.map Plate.rounded := by
    rw [Option.map_map]
    exact Option.map_congr fun p hp => (h.plate p hp).1.rounded_twice
  have hcolors : (b.colors.map EquipmentColor.rounded).map EquipmentColor.rounded = b.colors.map EquipmentColor.rounded := by
    rw [List.map_map]
    exact List.map_congr_left fun c hc => (h.colors c hc).1.rounded_twice
  simp only [Bundle.rounded, h.cyclist.rounded_twice, hplate, hcolors]

end Bundle.Storable

namespace Archive

variable {a a' : Archive}

/-! ## Events in an archive -/

/-- The event of an identifier, deleted or not. -/
def storedEvent? (a : Archive) (id : Uuid) : Option Event := (a.events.find? fun r => r.id == id).map EventRow.entity

/-- Where keys are unique, what is found by the key of a row is the entity of that row. -/
theorem find?_entity {ρ ε : Type} {key : ρ → Uuid} {entity : ρ → ε} {rows : List ρ} {r : ρ} {e : ε}
    (hkeys : (rows.map key).Nodup) (hr : r ∈ rows) (he : entity r = e) :
    (rows.find? fun s => key s == key r).map entity = some e := by
  rw [(find?_key_iff hkeys).2 ⟨hr, rfl⟩, Option.map_some, he]

/-- A row that is there is put in its own place. -/
theorem upsert_of_mem {ρ : Type} {key : ρ → Uuid} {r : ρ} {rows : List ρ} (hkeys : (rows.map key).Nodup) (h : r ∈ rows) :
    upsert key r rows = rows := by
  obtain ⟨before, after, rfl⟩ := List.append_of_mem h
  exact upsert_between hkeys rfl

theorem answer_saveEvent_of_ok {e : Event} (he : e.Storable) (h : a.saveEvent e = .ok a') :
    answer (.saveEvent e) a = (.ok e, a') := by
  have hwrite : answer (.saveEvent e) a = (.ok e.assumeUtc, a') := write_of_ok (s := fun a => a.saveEvent e) e.assumeUtc h
  rw [hwrite, he.assumeUtc_eq]

/-- An event that was saved is read back as it was, and to save it again changes nothing. -/
theorem saveEvent_readBack {e : Event} (ha : a.Constrained) (hblocks : a.blocks = []) (he : e.Storable) :
    ∃ a', answer (.saveEvent e) a = (.ok e, a') ∧ a'.storedEvent? e.id = some e ∧
      answer (.findEvent e.id) a' = (.ok (if e.isDeleted then none else some e), a') ∧
      answer (.saveEvent e) a' = (.ok e, a') := by
  obtain ⟨a', hsave⟩ := saveEvent_of_unblocked hblocks he.integers
  have ha' : a'.Constrained := ha.saveEvent hsave
  have hput := saveEvent_ok hsave
  have hmem : EventRow.ofEntity e ∈ a'.events := by
    rw [hput]
    exact mem_upsert.2 (.inl rfl)
  have hstate : (EventRow.ofEntity e).isActive = !e.isDeleted := by
    simp [EventRow.isActive, EventRow.ofEntity, Event.isDeleted]
  have hactive : (a'.activeEvent? e.id).map EventRow.entity = if e.isDeleted then none else some e := by
    by_cases hdeleted : e.isDeleted = true
    · have hnone : a'.activeEvent? e.id = none := by
        rw [activeEvent?_eq_none_iff]
        rintro ⟨r, hr, hactive, hid⟩
        obtain rfl := List.inj_on_of_nodup_map ha'.eventIds hr hmem hid
        rw [hstate, hdeleted] at hactive
        cases hactive
      rw [hnone, if_pos hdeleted, Option.map_none]
    · have hactive : (EventRow.ofEntity e).isActive = true := by rw [hstate, Bool.eq_false_iff.2 hdeleted, Bool.not_false]
      have hfound : a'.activeEvent? e.id = some (.ofEntity e) := activeEvent?_eq ha'.eventIds hmem hactive
      rw [hfound, if_neg hdeleted, Option.map_some, he.entity_ofEntity]
  refine ⟨a', answer_saveEvent_of_ok he hsave, ?_, ?_, ?_⟩
  · exact find?_entity ha'.eventIds hmem he.entity_ofEntity
  · exact congrArg (fun found : Option Event => ((.ok found : Except Failure (Option Event)), a')) hactive
  · have hblocks' : a'.blocks = [] := by
      rw [hput]
      exact hblocks
    obtain ⟨a'', hagain⟩ := saveEvent_of_unblocked hblocks' he.integers
    have hsame : a'' = a' := by
      rw [saveEvent_ok hagain, upsert_of_mem ha'.eventIds hmem]
    exact answer_saveEvent_of_ok he (hsame ▸ hagain)

/-! ## Detections in an archive -/

/-- A cyclist, its plate and its colours are read back as they are: each by its identifier, the plate and the colours by the
cyclist as well, and the colours in the order of their creation. -/
structure ReadsBack (a : Archive) (b : Bundle) : Prop where
  cyclist : (a.cyclists.find? fun r => r.id == b.cyclist.id).map CyclistRow.entity = some b.cyclist
  plateById : ∀ p ∈ b.plate, (a.plates.find? fun r => r.id == p.id).map PlateRow.entity = some p
  colorById : ∀ c ∈ b.colors, (a.colors.find? fun r => r.id == c.id).map ColorRow.entity = some c
  plate : (a.plateOf? b.cyclist.id).map PlateRow.entity = b.plate
  colors : (a.colorsOf b.cyclist.id).map ColorRow.entity =
    b.colors.mergeSort fun c d => c.createdAt.wall.key ≤ d.createdAt.wall.key

/-- A classification of a photo that is there can be recorded: no change is forbidden, its cyclists are of the photo, and its
identifiers are new and differ. -/
structure Admits (a : Archive) (p : PhotoRow) (bs : List Bundle) : Prop where
  unblocked : a.blocks = []
  photo : p.id ∈ a.photos.map PhotoRow.id
  photoId : ∀ b ∈ bs, b.cyclist.photoId = p.id
  ids : (bs.flatMap Bundle.ids).Nodup
  new : ∀ id ∈ bs.flatMap Bundle.ids, a.IsNewPart id

variable {p : PhotoRow} {bs : List Bundle}

/-- What can be recorded is recorded, if the tables can keep it. -/
theorem Admits.saved (h : a.Admits p bs) (ha : a.Constrained) (hbs : ∀ b ∈ bs, b.Storable) :
    a.saveClassification p bs = (.ok (), a.classified p bs) := by
  have hrecordable : ∀ b ∈ bs, b.Recordable p.id := fun b hb =>
    { photoId := h.photoId b hb
      confidence := (hbs b hb).cyclist.confidence.ne_nan
      plate := fun q hq => ⟨((hbs b hb).plate q hq).2, ((hbs b hb).plate q hq).1.number⟩
      colors := fun c hc => ⟨((hbs b hb).colors c hc).2, ((hbs b hb).colors c hc).1.density.ne_nan⟩ }
  exact transact_eq_ok_iff.2 (classification_made_of_new ha h.unblocked h.photo hrecordable h.ids h.new)

/-- The identifiers of rounded entities are the same. -/
theorem Admits.rounded (h : a.Admits p bs) : a.Admits p (bs.map Bundle.rounded) := by
  have hids : (bs.map Bundle.rounded).flatMap Bundle.ids = bs.flatMap Bundle.ids := by
    rw [List.flatMap_map]
    refine List.flatMap_congr fun b _ => ?_
    simp [Bundle.ids, Bundle.rounded, Cyclist.rounded, Option.toList_map, Function.comp_def, Plate.rounded,
      EquipmentColor.rounded]
  refine ⟨h.unblocked, h.photo, List.forall_mem_map.2 h.photoId, ?_, ?_⟩
  · rw [hids]
    exact h.ids
  · rw [hids]
    exact h.new

/-- The cyclists of a classification that keeps the constraints are new and differ. -/
theorem nodup_cyclistIds_of_classified (h : (a.classified p bs).Constrained) :
    (bs.map fun b => b.cyclist.id).Nodup ∧ ∀ b ∈ bs, b.cyclist.id ∉ a.cyclists.map CyclistRow.id := by
  have hkeys : ((a.cyclists ++ bs.map fun b => CyclistRow.ofEntity b.cyclist).map CyclistRow.id).Nodup := h.cyclistIds
  rw [List.map_append, List.map_map] at hkeys
  obtain ⟨-, hnew, hapart⟩ := List.nodup_append.1 hkeys
  exact ⟨hnew, fun b hb hold => hapart _ hold _ (List.mem_map_of_mem hb) rfl⟩

/-- What a classification has recorded is read back with its scores rounded. -/
theorem readsBack_of_saved (ha : a.Constrained) (hbs : ∀ b ∈ bs, b.Storable)
    (h : a.saveClassification p bs = (.ok (), a')) : ∀ b ∈ bs, a'.ReadsBack b.rounded := by
  intro b hb
  have hmade : Made a (classification p bs) a' := transact_eq_ok_iff.1 h
  have ha' : a'.Constrained := hmade.keeps (fun s hs _ _ hb hs' => hb.classification hs hs') ha
  obtain rfl := classification_made hmade
  obtain ⟨hids, hnew⟩ := nodup_cyclistIds_of_classified ha'
  have hstored : b.IsStoredIn (a.classified p bs) := isStoredIn_classified hb
  obtain ⟨hcyclist, hplate, hcolors⟩ := hbs b hb
  refine ⟨?_, ?_, ?_, ?_, ?_⟩
  · exact find?_entity ha'.cyclistIds hstored.cyclist hcyclist.entity_ofEntity
  · intro _ hrounded
    obtain ⟨q, hq, rfl⟩ := Option.map_eq_some_iff.1 hrounded
    exact find?_entity ha'.plateIds (hstored.plate q hq) (hplate q hq).1.entity_ofEntity
  · intro _ hrounded
    obtain ⟨c, hc, rfl⟩ := List.mem_map.1 hrounded
    exact find?_entity ha'.colorIds (hstored.colors c hc) (hcolors c hc).1.entity_ofEntity
  -- no plate and no colour of before refers to the new cyclist
  · have hold : ∀ s ∈ a.plates, s.cyclistId ≠ b.cyclist.id := fun s hs heq => hnew b hb (heq ▸ ha.plateCyclist s hs)
    have hrows := platesOf_classified (a := a) (p := p) hb (fun b hb q hq => ((hbs b hb).plate q hq).2) hids hold
    have hfound : (a.classified p bs).plateOf? b.cyclist.id = b.plate.map .ofEntity := by
      rw [plateOf?, ← List.head?_filter, hrows]
      cases b.plate <;> rfl
    change ((a.classified p bs).plateOf? b.cyclist.id).map _ = b.plate.map _
    rw [hfound, Option.map_map]
    exact Option.map_congr fun q hq => (hplate q hq).1.entity_ofEntity
  · have hold : ∀ s ∈ a.colors, s.cyclistId ≠ b.cyclist.id := fun s hs heq => hnew b hb (heq ▸ ha.colorCyclist s hs)
    have hrows := colorsOf_classified (a := a) (p := p) hb (fun b hb c hc => ((hbs b hb).colors c hc).2) hids hold
    have hentities : (b.colors.map ColorRow.ofEntity).map ColorRow.entity = b.rounded.colors := by
      rw [List.map_map]
      exact List.map_congr_left fun c hc => (hcolors c hc).1.entity_ofEntity
    change ((a.classified p bs).colorsOf b.cyclist.id).map _ = _
    rw [colorsOf, hrows, sortByKey, ← hentities]
    exact List.map_mergeSort fun _ _ _ _ => rfl

/-- **Entities are written and read back.** An event is saved and read back as it was, and to save what was read changes nothing.
What is seen on a photo is recorded where its identifiers are new, and it is read back with its scores rounded; so is what was
read, when that is recorded. -/
theorem entities_are_read_back (ha : a.Constrained) :
    (∀ e : Event, a.blocks = [] → e.Storable → ∃ a', answer (.saveEvent e) a = (.ok e, a') ∧
      a'.storedEvent? e.id = some e ∧
      answer (.findEvent e.id) a' = (.ok (if e.isDeleted then none else some e), a') ∧
      answer (.saveEvent e) a' = (.ok e, a')) ∧
    ∀ (p : PhotoRow) (bs : List Bundle), (∀ b ∈ bs, b.Storable) → ∀ cs, (cs = bs ∨ cs = bs.map Bundle.rounded) →
      (a.Admits p bs → ∃ a', a.saveClassification p cs = (.ok (), a')) ∧
      ∀ a', a.saveClassification p cs = (.ok (), a') → ∀ b ∈ bs, a'.ReadsBack b.rounded := by
  refine ⟨fun e hblocks he => saveEvent_readBack ha hblocks he, ?_⟩
  rintro p bs hbs cs (rfl | rfl)
  · exact ⟨fun hadmits => ⟨_, hadmits.saved ha hbs⟩, fun a' h => readsBack_of_saved ha hbs h⟩
  · have hrounded : ∀ b ∈ bs.map Bundle.rounded, b.Storable := List.forall_mem_map.2 fun b hb => (hbs b hb).rounded
    refine ⟨fun hadmits => ⟨_, hadmits.rounded.saved ha hrounded⟩, fun a' h b hb => ?_⟩
    have hread := readsBack_of_saved ha hrounded h b.rounded (List.mem_map_of_mem hb)
    rwa [(hbs b hb).rounded_twice] at hread

/-- An event of the small album, deleted. -/
def deletedTour : Event :=
  ⟨.ofNat 1, "Tour", .first, some "Bergamo", .completed, 3, 2,
    ⟨.ofUtc ⟨.first, .midnight⟩, .ofUtc ⟨.last, .midnight⟩, some (.ofUtc ⟨.last, .midnight⟩)⟩⟩

/-- A cyclist with a corrected plate and a colour, whose scores have more places than are kept. -/
def redCyclist : Bundle :=
  let now : Stamp := .ofUtc ⟨.first, .ofParts 16 0 0 1⟩
  ⟨⟨.ofNat 20, .ofNat 4, [("x", .ofInt 12)], .ofRatio false 987654 1000000, now⟩,
    some ⟨.ofNat 21, .ofNat 20, 42, some (.ofRatio false 1 3), true, some now, now⟩,
    [⟨.ofNat 22, .ofNat 20, .bike, "red", "#ff0000", .ofRatio false 200 3, now⟩]⟩

/-- They are read back from the small album, the cyclist on its second photo, with rounded scores. -/
theorem redCyclist_is_read_back :
    (∃ a', answer (.saveEvent deletedTour) smallAlbum = (.ok deletedTour, a') ∧
      a'.storedEvent? (.ofNat 1) = some deletedTour) ∧
    ∃ p a', smallAlbum.saveClassification p [redCyclist] = (.ok (), a') ∧ a'.ReadsBack redCyclist.rounded := by
  obtain ⟨hevents, hdetections⟩ := entities_are_read_back (a := smallAlbum) (by decide +kernel)
  have htour : deletedTour.Storable := ⟨by decide +kernel, by decide +kernel, by decide +kernel⟩
  have hcyclist : redCyclist.Storable :=
    { cyclist := ⟨rfl, by decide +kernel⟩
      plate := by
        rintro q ⟨⟩
        exact ⟨⟨rfl, by decide +kernel, by decide +kernel, by decide +kernel⟩, rfl⟩
      colors := List.forall_mem_singleton.2 ⟨⟨rfl, by decide +kernel⟩, rfl⟩ }
  let p : PhotoRow := (smallAlbum.photos.drop 1).head (by decide +kernel)
  have hadmits : smallAlbum.Admits p [redCyclist] :=
    ⟨rfl, by decide +kernel, by decide +kernel, by decide +kernel, by decide +kernel⟩
  obtain ⟨a', hsaved, hfound, -⟩ := hevents deletedTour rfl htour
  obtain ⟨hrecorded, hread⟩ := hdetections p [redCyclist] (List.forall_mem_singleton.2 hcyclist) _ (.inl rfl)
  obtain ⟨a'', hclassified⟩ := hrecorded hadmits
  exact ⟨⟨a', hsaved, hfound⟩, p, a'', hclassified, hread a'' hclassified redCyclist List.mem_cons_self⟩

end Archive

end RaceAlbum
