import Mathlib.Data.List.Forall2
import RaceAlbum.Proofs.World.Tape

/-!
# What entities are made of

What stands in an entity that was made: its identifier and its stamps are the ones that were drawn for it, and the rest is
what was reported or sent. Of a list, the identifiers and the stamps come in the order of the list.
-/

namespace RaceAlbum

open Program

variable {α β : Type} {w w' : World Tape}

/-- Each item of a list has its partner in the other one. -/
theorem exists_of_forall₂ {R : α → β → Prop} {as : List α} {bs : List β} {a : α} (h : List.Forall₂ R as bs)
    (ha : a ∈ as) : ∃ b ∈ bs, R a b := by
  induction h with
  | nil => cases ha
  | cons hR _ ih =>
    rcases List.mem_cons.1 ha with rfl | ha
    · exact ⟨_, List.mem_cons_self, hR⟩
    · obtain ⟨b, hb, hR⟩ := ih ha
      exact ⟨b, List.mem_cons_of_mem _ hb, hR⟩

/-- Partners of one kind are partners of another. -/
theorem forall₂_imp_of_mem {R S : α → β → Prop} {as : List α} {bs : List β} (h : List.Forall₂ R as bs)
    (hRS : ∀ a ∈ as, ∀ b ∈ bs, R a b → S a b) : List.Forall₂ S as bs := by
  induction h with
  | nil => exact .nil
  | cons hR _ ih =>
    exact .cons (hRS _ List.mem_cons_self _ List.mem_cons_self hR)
      (ih fun a ha b hb => hRS a (List.mem_cons_of_mem _ ha) b (List.mem_cons_of_mem _ hb))

/-- What is there has its partner on the other side. -/
theorem exists_of_rel {R : α → β → Prop} {a? : Option α} {b? : Option β} {a : α} (h : Option.Rel R a? b?) (ha : a ∈ a?) :
    ∃ b ∈ b?, R a b := by
  cases h with
  | some hR =>
    cases ha
    exact ⟨_, rfl, hR⟩
  | none => cases ha

/-- Identifiers and stamps were drawn, in this order and perhaps with others between them; nothing else changed. -/
def Gave (w w' : World Tape) (ids : List Uuid) (stamps : List Stamp) : Prop :=
  ∃ ms us, Drew w w' ms us ∧ ids.Sublist us ∧ stamps.Sublist (ms.map .ofUtc)

namespace Gave

variable {w₁ : World Tape} {ids ids' : List Uuid} {stamps stamps' : List Stamp}

/-- Where nothing is done, nothing was drawn. -/
theorem refl (w : World Tape) : Gave w w [] [] := ⟨[], [], .refl w, .slnil, .slnil⟩

/-- What was drawn in two parts was drawn in this order. -/
theorem trans (h : Gave w w₁ ids stamps) (h' : Gave w₁ w' ids' stamps') :
    Gave w w' (ids ++ ids') (stamps ++ stamps') := by
  obtain ⟨ms, us, hd, hi, hs⟩ := h
  obtain ⟨ms', us', hd', hi', hs'⟩ := h'
  refine ⟨ms ++ ms', us ++ us', hd.trans hd', hi.append hi', ?_⟩
  rw [List.map_append]
  exact hs.append hs'

/-- Of what was drawn, some may be left out. -/
theorem weaken (h : Gave w w' ids stamps) (hi : ids'.Sublist ids) (hs : stamps'.Sublist stamps) :
    Gave w w' ids' stamps' := by
  obtain ⟨ms, us, hd, hids, hstamps⟩ := h
  exact ⟨ms, us, hd, hi.trans hids, hs.trans hstamps⟩

/-- An identifier that is taken was drawn. -/
theorem of_takeId {id : Uuid} (h : run taped takeId w = (.ok id, w')) : Gave w w' [id] [] :=
  ⟨[], [id], run_takeId_ok h, .refl _, .slnil⟩

/-- A moment that is read was drawn. -/
theorem of_readClock {s : Stamp} (h : run taped readClock w = (.ok s, w')) : Gave w w' [] [s] := by
  obtain ⟨m, rfl, hd⟩ := run_readClock_ok h
  exact ⟨[m], [], hd, .slnil, .refl _⟩

/-- What was drawn by a program for each item of a list was drawn for the list. -/
theorem of_forAll {f : α → Program β} (ids : β → List Uuid) (stamps : β → List Stamp) {R : β → α → Prop}
    (hf : ∀ a b w w', run taped (f a) w = (.ok b, w') → Gave w w' (ids b) (stamps b) ∧ R b a) {as : List α}
    {bs : List β} (h : run taped (forAll f as) w = (.ok bs, w')) :
    Gave w w' (bs.flatMap ids) (bs.flatMap stamps) ∧ List.Forall₂ R bs as := by
  induction as generalizing w bs with
  | nil =>
    obtain ⟨hb, rfl⟩ := Prod.mk.inj h
    cases hb
    exact ⟨.refl _, .nil⟩
  | cons a as ih =>
    obtain ⟨b, bs', w₁, hb, hbs, rfl⟩ := run_forAll_cons_ok h
    obtain ⟨hg, hr⟩ := hf a b w w₁ hb
    obtain ⟨hg', hr'⟩ := ih hbs
    exact ⟨hg.trans hg', .cons hr hr'⟩

end Gave

/-! ## Detections -/

/-- A plate says what was reported of it, and its number is in the range. -/
structure Plate.Mirrors (cyclistId : Uuid) (p : Plate) (d : PlateDetection) : Prop where
  cyclistId : p.cyclistId = cyclistId
  number : p.number = d.number
  confidence : p.confidence = d.confidence
  uncorrected : p.manuallyCorrected = false
  inRange : plateNumberMin ≤ d.number ∧ d.number ≤ plateNumberMax

/-- A colour says what was reported of it. -/
structure EquipmentColor.Mirrors (cyclistId : Uuid) (c : EquipmentColor) (d : ColorDetection) : Prop where
  cyclistId : c.cyclistId = cyclistId
  item : c.item.text = d.item
  name : c.name = d.name
  hex : c.hex = d.hex
  density : c.density = d.density

/-- A cyclist with its plate and its colours says what was reported of it. -/
structure Bundle.Mirrors (photoId : Uuid) (b : Bundle) (d : Detection) : Prop where
  photoId : b.cyclist.photoId = photoId
  box : b.cyclist.box = d.box
  confidence : b.cyclist.confidence = d.confidence
  plate : Option.Rel (Plate.Mirrors b.cyclist.id) b.plate d.plate
  colors : List.Forall₂ (EquipmentColor.Mirrors b.cyclist.id) b.colors d.colors

/-- The plate and the colours of a bundle refer to its cyclist. -/
theorem Bundle.Mirrors.parts {photoId : Uuid} {b : Bundle} {d : Detection} (h : b.Mirrors photoId d) :
    (∀ p ∈ b.plate, p.cyclistId = b.cyclist.id) ∧ ∀ c ∈ b.colors, c.cyclistId = b.cyclist.id := by
  constructor
  · intro p hp
    obtain ⟨_, -, hpd⟩ := exists_of_rel h.plate hp
    exact hpd.cyclistId
  · intro c hc
    obtain ⟨_, -, hcd⟩ := exists_of_forall₂ h.colors hc
    exact hcd.cyclistId

/-- The identifiers of a bundle: those of its cyclist, of its plate and of its colours. -/
def Bundle.ids (b : Bundle) : List Uuid :=
  b.cyclist.id :: (b.plate.toList.map Plate.id ++ b.colors.map EquipmentColor.id)

/-- When the cyclist of a bundle and its colours were created. -/
def Bundle.stamps (b : Bundle) : List Stamp := b.cyclist.createdAt :: b.colors.map EquipmentColor.createdAt

/-- The identifiers of cyclists are among those of their bundles, in the same order. -/
theorem cyclistIds_sublist (bs : List Bundle) : (bs.map fun b => b.cyclist.id).Sublist (bs.flatMap Bundle.ids) := by
  induction bs with
  | nil => exact .slnil
  | cons b bs ih => exact ((List.nil_sublist _).append ih).cons_cons _

/-- So are the stamps of cyclists among those of their bundles. -/
theorem cyclistStamps_sublist (bs : List Bundle) :
    (bs.map fun b => b.cyclist.createdAt).Sublist (bs.flatMap Bundle.stamps) := by
  induction bs with
  | nil => exact .slnil
  | cons b bs ih => exact ((List.nil_sublist _).append ih).cons_cons _

/-- So are those of colours. -/
theorem colorStamps_sublist (bs : List Bundle) :
    ((bs.flatMap Bundle.colors).map EquipmentColor.createdAt).Sublist (bs.flatMap Bundle.stamps) := by
  rw [List.map_flatMap]
  induction bs with
  | nil => exact .slnil
  | cons b bs ih => exact ((List.Sublist.refl _).append ih).cons _

/-- Stamps of universal time show the moments that were drawn. -/
theorem wall_sublist {stamps : List Stamp} {ms : List Moment} (h : stamps.Sublist (ms.map .ofUtc)) :
    (stamps.map Stamp.wall).Sublist ms := by
  have hwalls := h.map Stamp.wall
  rw [List.map_map] at hwalls
  exact (List.map_id ms) ▸ hwalls

/-- A new cyclist has what was given, under an identifier and a stamp that were drawn. -/
theorem createCyclist_ok {photoId : Uuid} {box : BoundingBox} {confidence : Binary64} {c : Cyclist}
    (h : run taped (Cyclist.create photoId box confidence) w = (.ok c, w')) :
    Gave w w' [c.id] [c.createdAt] ∧ c.photoId = photoId ∧ c.box = box ∧ c.confidence = confidence := by
  obtain ⟨id, w₁, hid, h⟩ := run_bind_ok h
  obtain ⟨now, w₂, hnow, h⟩ := run_bind_ok h
  obtain ⟨hc, rfl⟩ := Prod.mk.inj h
  cases hc
  exact ⟨(Gave.of_takeId hid).trans (.of_readClock hnow), rfl, rfl, rfl⟩

/-- A new plate has what was reported of it. -/
theorem createPlate_ok {cyclistId : Uuid} {d : PlateDetection} {p : Plate}
    (h : run taped (Plate.create cyclistId d) w = (.ok p, w')) :
    Gave w w' [p.id] [p.createdAt] ∧ p.Mirrors cyclistId d := by
  obtain ⟨hrange, h⟩ := run_require_bind_ok h
  obtain ⟨id, w₁, hid, h⟩ := run_bind_ok h
  obtain ⟨now, w₂, hnow, h⟩ := run_bind_ok h
  obtain ⟨hp, rfl⟩ := Prod.mk.inj h
  cases hp
  refine ⟨(Gave.of_takeId hid).trans (.of_readClock hnow), rfl, rfl, rfl, rfl, ?_⟩
  simp only [Bool.not_eq_true', Bool.or_eq_false_iff, decide_eq_false_iff_not, Int.not_lt] at hrange
  exact hrange

/-- A piece of equipment that is found by a name has this name. -/
theorem EquipmentItem.ofText?_eq_some {name : String} {item : EquipmentItem} (h : ofText? name = some item) :
    item.text = name := by
  have := List.find?_some h
  simpa using this

/-- So has one that a new colour is of. -/
theorem EquipmentItem.ofName_ok {name : String} {item : EquipmentItem} (h : ofName name = .ok item) :
    item.text = name := by
  unfold ofName at h
  cases hi : ofText? name with
  | none =>
    rw [hi] at h
    cases h
  | some i =>
    rw [hi] at h
    cases h
    exact ofText?_eq_some hi

/-- A new colour has what was reported of it. -/
theorem createColor_ok {cyclistId : Uuid} {d : ColorDetection} {c : EquipmentColor}
    (h : run taped (EquipmentColor.create cyclistId d) w = (.ok c, w')) :
    Gave w w' [c.id] [c.createdAt] ∧ c.Mirrors cyclistId d := by
  obtain ⟨-, h⟩ := run_require_bind_ok h
  obtain ⟨id, w₁, hid, h⟩ := run_bind_ok h
  obtain ⟨item, hitem, h⟩ := run_ofExcept_bind_ok h
  obtain ⟨now, w₂, hnow, h⟩ := run_bind_ok h
  obtain ⟨hc, rfl⟩ := Prod.mk.inj h
  cases hc
  exact ⟨(Gave.of_takeId hid).trans (.of_readClock hnow), rfl, EquipmentItem.ofName_ok hitem, rfl, rfl, rfl⟩

/-- The plate that was reported, if one was. -/
theorem createPlate?_ok {cyclistId : Uuid} {d? : Option PlateDetection} {p? : Option Plate}
    (h : run taped (match d? with
      | none => pure none
      | some d => some <$> Plate.create cyclistId d) w = (.ok p?, w')) :
    Gave w w' (p?.toList.map Plate.id) [] ∧ Option.Rel (Plate.Mirrors cyclistId) p? d? := by
  cases d? with
  | none =>
    obtain ⟨hp, rfl⟩ := Prod.mk.inj h
    cases hp
    exact ⟨.refl _, .none⟩
  | some d =>
    obtain ⟨p, hp, rfl⟩ := run_map_ok h
    obtain ⟨hg, hm⟩ := createPlate_ok hp
    exact ⟨hg.weaken (.refl _) (List.nil_sublist _), .some hm⟩

/-- The bundle of a detection has what was reported of the cyclist, of its plate and of its colours. -/
theorem ofDetection_ok {photoId : Uuid} {d : Detection} {b : Bundle}
    (h : run taped (Bundle.ofDetection photoId d) w = (.ok b, w')) :
    Gave w w' b.ids b.stamps ∧ b.Mirrors photoId d := by
  obtain ⟨c, w₁, hc, h⟩ := run_bind_ok h
  obtain ⟨p?, w₂, hp, h⟩ : ∃ p? w₂, run taped (match d.plate with
      | none => pure none
      | some p => some <$> Plate.create c.id p) w₁ = (.ok p?, w₂) ∧
      run taped (forAll (EquipmentColor.create c.id) d.colors >>= fun cs => pure ⟨c, p?, cs⟩) w₂ = (.ok b, w') := by
    cases hd : d.plate with
    | none =>
      rw [hd] at h
      exact ⟨none, w₁, rfl, h⟩
    | some p =>
      rw [hd] at h
      exact run_bind_ok h
  obtain ⟨cs, w₃, hcs, h⟩ := run_bind_ok h
  obtain ⟨hb, rfl⟩ := Prod.mk.inj h
  cases hb
  obtain ⟨hgc, hphoto, hbox, hconf⟩ := createCyclist_ok hc
  obtain ⟨hgp, hplate⟩ := createPlate?_ok hp
  obtain ⟨hgcs, hcolors⟩ := Gave.of_forAll _ _ (fun _ _ _ _ => createColor_ok) hcs
  rw [← List.map_eq_flatMap, ← List.map_eq_flatMap] at hgcs
  refine ⟨((hgc.trans hgp).trans hgcs).weaken ?_ ?_, hphoto, hbox, hconf, hplate, hcolors⟩
  · simp [Bundle.ids]
  · simp [Bundle.stamps]

/-- So have the bundles of several detections, in their order. -/
theorem ofDetections_ok {photoId : Uuid} {ds : List Detection} {bs : List Bundle}
    (h : run taped (forAll (Bundle.ofDetection photoId) ds) w = (.ok bs, w')) :
    Gave w w' (bs.flatMap Bundle.ids) (bs.flatMap Bundle.stamps) ∧
      List.Forall₂ (Bundle.Mirrors photoId) bs ds :=
  Gave.of_forAll _ _ (fun _ _ _ _ => ofDetection_ok) h

/-! ## Events -/

/-- The name of an event has three to two hundred characters. -/
theorem isEventName_iff {name : String} : isEventName name = true ↔ 3 ≤ name.length ∧ name.length ≤ 200 := by
  rw [isEventName, Bool.and_eq_true, decide_eq_true_eq, decide_eq_true_eq]
  exact Iff.rfl

/-- To check a date draws a moment of which nothing is kept. -/
theorem requireDate_ok {d : Date} (h : run taped (Event.requireDate d) w = (.ok (), w')) : Gave w w' [] [] := by
  obtain ⟨ms, us, hd⟩ := (requireDate_asksSupply d).noWrite.run_drew h
  exact ⟨ms, us, hd, List.nil_sublist _, List.nil_sublist _⟩

/-- A new event has a name of the right length, and all its stamps are one reading of the clock. -/
theorem createEvent_ok {n : NewEvent} {e : Event} (h : run taped (Event.create n) w = (.ok e, w')) :
    ∃ s, Gave w w' [e.id] [s] ∧ isEventName e.name = true ∧ e.audit = ⟨s, s, none⟩ := by
  obtain ⟨hname, h⟩ := run_require_bind_ok h
  obtain ⟨_, w₁, hdate, h⟩ := run_bind_ok h
  obtain ⟨id, w₂, hid, h⟩ := run_bind_ok h
  obtain ⟨audit, w₃, haudit, h⟩ := run_bind_ok h
  obtain ⟨s, w₄, hs, haudit⟩ := run_bind_ok haudit
  obtain ⟨haudit, rfl⟩ := Prod.mk.inj haudit
  obtain ⟨he, rfl⟩ := Prod.mk.inj h
  cases haudit
  cases he
  exact ⟨s, ((requireDate_ok hdate).trans (.of_takeId hid)).trans (.of_readClock hs), hname, rfl⟩

/-- An event that is renamed, or not, stays the same event, and its name one that an event may have. -/
theorem rename_ok {e e' : Event} {name? : Option String} (h : e.rename name? = .ok e') :
    e'.id = e.id ∧ e'.audit = e.audit ∧ (isEventName e.name = true → isEventName e'.name = true) := by
  unfold Event.rename at h
  split at h
  · cases h
    exact ⟨rfl, rfl, id⟩
  · split at h
    · cases h
      exact ⟨rfl, rfl, fun _ => ‹_›⟩
    · cases h

/-- A changed event keeps its identifier and all stamps but that of its last change, which is a reading of the clock. -/
theorem updateEvent_ok {e e' : Event} {c : Event.Changes} (h : run taped (e.update c) w = (.ok (e', none), w')) :
    ∃ s, Gave w w' [] [s] ∧ e'.id = e.id ∧ (isEventName e.name = true → isEventName e'.name = true) ∧
      e'.audit = { e.audit with updatedAt := s } := by
  unfold Event.update at h
  split at h
  · cases (Prod.mk.inj h).1
  · rename_i e₁ hrename
    obtain ⟨hid, haudit, hname⟩ := rename_ok hrename
    obtain ⟨r, w₁, hr, h⟩ := run_bind_ok h
    obtain ⟨ms, us, hd⟩ : ∃ ms us, Drew w w₁ ms us := by
      refine AsksNoWrite.run_drew (AsksSupply.noWrite (.attempt ?_)) hr
      split
      · exact requireDate_asksSupply _
      · exact .done _
    rcases r with f | _
    · cases (Prod.mk.inj h).1
    · obtain ⟨s, w₂, hs, h⟩ := run_bind_ok h
      obtain ⟨he, rfl⟩ := Prod.mk.inj h
      cases he
      refine ⟨s, Gave.trans ⟨ms, us, hd, List.nil_sublist _, List.nil_sublist _⟩ (.of_readClock hs), hid, hname, ?_⟩
      rw [← haudit]

/-- A deleted event keeps its identifier and its name; it is deleted at the moment of its last change. -/
theorem softDelete_ok {e e' : Event} (h : run taped e.softDelete w = (.ok e', w')) :
    ∃ s, Gave w w' [] [s] ∧ e'.id = e.id ∧ e'.name = e.name ∧ e'.audit = ⟨e.audit.createdAt, s, some s⟩ := by
  obtain ⟨s, w₁, hs, h⟩ := run_bind_ok h
  obtain ⟨he, rfl⟩ := Prod.mk.inj h
  cases he
  exact ⟨s, .of_readClock hs, rfl, rfl, rfl⟩

/-! ## Photos -/

/-- A photo that a file was prepared to become: it names the file, says what the file is, and is pending. -/
structure Photo.Prepared (eventId : Uuid) (p : Photo) (file : UploadedFile) : Prop where
  eventId : p.eventId = eventId
  filename : p.filename = file.filename
  mimeType : p.mimeType = file.contentType
  fileSize : p.fileSize = file.data.length
  holdsText : holdsText file.filename = true
  accepted : acceptedMimeTypes.contains file.contentType = true
  nonempty : 0 < file.data.length
  status : p.status = .pending
  reason : p.unclassifiedReason = none
  processedAt : p.processedAt = none

/-- A new photo has what was given, which broke no rule, under an identifier and a stamp that were drawn. -/
theorem createPhoto_ok {n : NewPhoto} {p : Photo} (h : run taped (Photo.create n) w = (.ok p, w')) :
    ∃ id s, Gave w w' [id] [s] ∧ Photo.brokenRule? n = none ∧
      p = ⟨id, n.eventId, n.filename, n.storageKey, n.fileSize, n.mimeType, n.width, n.height, .pending, none,
        n.capturedAt, s, none⟩ := by
  unfold Photo.create at h
  split at h
  · cases (Prod.mk.inj h).1
  · obtain ⟨id, w₁, hid, h⟩ := run_bind_ok h
    obtain ⟨s, w₂, hs, h⟩ := run_bind_ok h
    obtain ⟨hp, rfl⟩ := Prod.mk.inj h
    cases hp
    exact ⟨id, s, (Gave.of_takeId hid).trans (.of_readClock hs), ‹_›, rfl⟩

/-- A new photo that breaks no rule has a file name with more than blanks, an accepted type and some bytes. -/
theorem brokenRule?_eq_none {n : NewPhoto} (h : Photo.brokenRule? n = none) :
    holdsText n.filename = true ∧ acceptedMimeTypes.contains n.mimeType = true ∧ 0 < n.fileSize := by
  unfold Photo.brokenRule? at h
  split at h
  · cases h
  split at h
  · cases h
  split at h
  · cases h
  simp_all

/-- A photo that is prepared is made of the file and of the event. -/
theorem prepare_ok {eventId : Uuid} {file : UploadedFile} {prepared : UploadedFile × Photo}
    (h : run taped (PhotoService.prepare eventId file) w = (.ok prepared, w')) :
    Gave w w' [prepared.2.id] [] ∧ prepared.1 = file ∧ prepared.2.Prepared eventId file := by
  obtain ⟨mark, w₁, hmark, h⟩ := run_bind_ok h
  obtain ⟨captured, -, h⟩ := run_ofExcept_bind_ok h
  obtain ⟨p, w₂, hp, h⟩ := run_bind_ok h
  obtain ⟨hprepared, rfl⟩ := Prod.mk.inj h
  cases hprepared
  obtain ⟨id, s, hg, hrules, rfl⟩ := createPhoto_ok hp
  obtain ⟨hname, htype, hsize⟩ := brokenRule?_eq_none hrules
  have hall := (Gave.of_takeId hmark).trans hg
  exact ⟨hall.weaken (by simp) (List.nil_sublist _), rfl, rfl, rfl, rfl, rfl, hname, htype, by simpa using hsize, rfl, rfl,
    rfl⟩

/-- A photo that is marked as classified keeps all but the marks of that. -/
theorem complete_ok {p p' : Photo} (h : run taped p.complete w = (.ok p', w')) :
    ∃ s, Gave w w' [] [s] ∧ p' = { p with status := .completed, unclassifiedReason := none, processedAt := some s } := by
  obtain ⟨s, w₁, hs, h⟩ := run_bind_ok h
  obtain ⟨hp, rfl⟩ := Prod.mk.inj h
  cases hp
  exact ⟨s, .of_readClock hs, rfl⟩

end RaceAlbum
