import RaceAlbum.Proofs.Archive.Batches
import RaceAlbum.Proofs.Archive.Constrained
import RaceAlbum.Proofs.Program.Run
import RaceAlbum.Proofs.World.Answers

/-!
# The tables keep their constraints

Whatever is asked of an archive and however it is answered, the constraints of the tables hold afterwards if they held before:
no statement that would break one of them is made. So they hold after every run of every program (`Constrained.run`) and of
programs side by side (`Scene.run_constrained`), and what is proved of constrained archives holds of every archive that was
empty at first.
-/

namespace RaceAlbum

variable {ρ : Type} {key : ρ → Uuid} {r : ρ} {rows : List ρ}

/-- Keys stay unique when a row is put in its place. -/
theorem nodup_keys_upsert (h : (rows.map key).Nodup) : ((upsert key r rows).map key).Nodup := by
  have hkeys : rows.Pairwise fun s t => key s ≠ key t := List.pairwise_map.1 h
  exact List.pairwise_map.2 (pairwise_upsert (fun _ _ => Ne.symm) hkeys hkeys fun _ _ hne => hne)

/-- No key is lost when a row is put in its place. -/
theorem mem_keys_upsert {id : Uuid} (h : id ∈ rows.map key) : id ∈ (upsert key r rows).map key := by
  obtain ⟨s, hs, rfl⟩ := List.mem_map.1 h
  obtain ⟨t, ht, hkey⟩ := exists_key_upsert key r hs
  exact List.mem_map.2 ⟨t, ht, hkey⟩

/-- Keys stay unique when a row of a new key is added. -/
theorem nodup_keys_append (h : (rows.map key).Nodup) (hr : ∀ s ∈ rows, key s ≠ key r) :
    ((rows ++ [r]).map key).Nodup := by
  rw [List.map_append, List.nodup_append]
  refine ⟨h, List.nodup_singleton _, ?_⟩
  rw [List.forall_mem_map]
  intro s hs k hk
  rw [List.mem_singleton.1 hk]
  exact hr s hs

namespace Archive

variable {a a' : Archive}

/-- An identifier that is not found is that of no cyclist. -/
theorem hasCyclist_eq_false {id : Uuid} (h : a.hasCyclist id = false) : ∀ c ∈ a.cyclists, c.id ≠ id := by
  intro c hc heq
  have htrue : a.hasCyclist id = true := hasCyclist_iff.2 ⟨c, hc, heq⟩
  rw [h] at htrue
  cases htrue

namespace Constrained

/-- No constraint is broken where there are no rows. -/
theorem empty : Archive.empty.Constrained := by decide

/-- To save an event breaks none: an event with its identifier is replaced. -/
theorem saveEvent {e : Event} (ha : a.Constrained) (h : a.saveEvent e = .ok a') : a'.Constrained := by
  rw [saveEvent_ok h]
  exact { ha with
    eventIds := nodup_keys_upsert ha.eventIds
    photoEvent := fun r hr => mem_keys_upsert (ha.photoEvent r hr) }

/-- To store a photo breaks none, as the statement checks the event and the two names. -/
theorem storePhoto {p : Photo} (ha : a.Constrained) (h : a.storePhoto p = .ok a') : a'.Constrained := by
  obtain ⟨rfl, hname, hevent⟩ := savePhoto_ok (storePhoto_eq_ok_iff.1 h)
  have hkeys : a.photos.Pairwise fun r s => r.id ≠ s.id := List.pairwise_map.1 ha.photoIds
  have hnames : (upsert PhotoRow.id (.ofEntity p) a.photos).Pairwise fun r s =>
      (r.eventId, r.filename) ≠ (s.eventId, s.filename) := by
    refine pairwise_upsert (fun _ _ => Ne.symm) hkeys (List.pairwise_map.1 ha.filenames) ?_
    intro s hs hne heq
    exact ne_of_hasFilename hname hs hne (congrArg Prod.fst heq) (congrArg Prod.snd heq)
  exact { ha with
    photoIds := nodup_keys_upsert ha.photoIds
    filenames := List.pairwise_map.2 hnames
    photoEvent := by
      intro r hr
      rcases mem_upsert.1 hr with rfl | ⟨hr, -⟩
      · exact List.mem_map.2 (hasEvent_iff.1 hevent)
      · exact ha.photoEvent r hr
    cyclistPhoto := fun r hr => mem_keys_upsert (ha.cyclistPhoto r hr) }

/-- To mark a photo leaves its identifier, its event and its name. -/
theorem markPhoto {id : Uuid} {status : PhotoStatus} {reason : Option UnclassifiedReason} {processedAt : Option Moment}
    (ha : a.Constrained) (h : a.markPhoto id status reason processedAt = .ok a') : a'.Constrained := by
  rw [markPhoto_ok h]
  have hids : (a.photos.map (mark id status reason processedAt)).map PhotoRow.id = a.photos.map PhotoRow.id := by
    rw [List.map_map]
    exact List.map_congr_left fun r _ => mark_id
  have hnames (r : PhotoRow) : (mark id status reason processedAt r).eventId = r.eventId ∧
      (mark id status reason processedAt r).filename = r.filename := by
    unfold mark
    split <;> exact ⟨rfl, rfl⟩
  exact { ha with
    photoIds := by
      rw [hids]
      exact ha.photoIds
    filenames := by
      rw [List.map_map]
      simp only [Function.comp_def, hnames]
      exact ha.filenames
    photoEvent := by
      rw [List.forall_mem_map]
      intro r hr
      rw [(hnames r).1]
      exact ha.photoEvent r hr
    cyclistPhoto := by
      intro r hr
      rw [hids]
      exact ha.cyclistPhoto r hr }

/-- To add a cyclist breaks none, as the statement checks its identifier and its photo. -/
theorem addCyclist {r : CyclistRow} (ha : a.Constrained) (h : a.addCyclist r = .ok a') : a'.Constrained := by
  obtain ⟨rfl, hid, hphoto⟩ := addCyclist_ok h
  have hstays {id : Uuid} (hid : id ∈ a.cyclists.map CyclistRow.id) : id ∈ (a.cyclists ++ [r]).map CyclistRow.id := by
    rw [List.map_append]
    exact List.mem_append_left _ hid
  exact { ha with
    cyclistIds := nodup_keys_append ha.cyclistIds (hasCyclist_eq_false hid)
    cyclistPhoto := List.forall_mem_append.2 ⟨ha.cyclistPhoto, by simpa using hasPhoto_iff.1 hphoto⟩
    plateCyclist := fun s hs => hstays (ha.plateCyclist s hs)
    colorCyclist := fun s hs => hstays (ha.colorCyclist s hs) }

/-- So does a colour, whose identifier and cyclist are checked. -/
theorem addColor {r : ColorRow} (ha : a.Constrained) (h : a.addColor r = .ok a') : a'.Constrained := by
  have hid : ∀ s ∈ a.colors, s.id ≠ r.id := by
    obtain ⟨-, h⟩ := ensure_bind_ok h
    obtain ⟨-, h⟩ := ensure_bind_ok h
    obtain ⟨hid, -⟩ := ensure_bind_ok h
    simpa using hid
  obtain ⟨rfl, hcyclist⟩ := addColor_ok h
  exact { ha with
    colorIds := nodup_keys_append ha.colorIds hid
    colorCyclist := List.forall_mem_append.2 ⟨ha.colorCyclist, by simpa using hasCyclist_iff.1 hcyclist⟩ }

/-- So does a plate, of which a cyclist has only one. -/
theorem addPlate {r : PlateRow} (ha : a.Constrained) (h : a.addPlate r = .ok a') : a'.Constrained := by
  have hid : ∀ s ∈ a.plates, s.id ≠ r.id := by
    obtain ⟨-, h⟩ := ensure_bind_ok h
    obtain ⟨-, h⟩ := ensure_bind_ok h
    obtain ⟨-, h⟩ := ensure_bind_ok h
    obtain ⟨hid, -⟩ := ensure_bind_ok h
    simpa using hid
  obtain ⟨rfl, hplate, hcyclist⟩ := addPlate_ok h
  exact { ha with
    plateIds := nodup_keys_append ha.plateIds hid
    onePlate := nodup_keys_append ha.onePlate hplate
    plateCyclist := List.forall_mem_append.2 ⟨ha.plateCyclist, by simpa using hasCyclist_iff.1 hcyclist⟩ }

/-- A cyclist of another photo stays when a photo is deleted. -/
theorem mem_cyclists_deleted {id cyclistId : Uuid} (h : cyclistId ∈ a.cyclists.map CyclistRow.id)
    (hother : (!a.photoHasCyclist id cyclistId) = true) :
    cyclistId ∈ (a.cyclists.filter fun r => !ofPhoto id r).map CyclistRow.id := by
  obtain ⟨c, hc, rfl⟩ := List.mem_map.1 h
  rw [Bool.not_eq_true', photoHasCyclist, List.any_eq_false] at hother
  have hphoto : ¬ofPhoto id c = true := fun hphoto => hother c hc (by simp [hphoto])
  exact List.mem_map.2 ⟨c, List.mem_filter.2 ⟨hc, by simp [hphoto]⟩, rfl⟩

/-- To delete a photo leaves no row that refers to it, or to one of its cyclists. -/
theorem deletePhoto {id : Uuid} (ha : a.Constrained) (h : a.deletePhoto id = .ok a') : a'.Constrained := by
  rw [deletePhoto_ok h]
  exact { ha with
    photoIds := nodup_keys_filter _ ha.photoIds
    cyclistIds := nodup_keys_filter _ ha.cyclistIds
    plateIds := nodup_keys_filter _ ha.plateIds
    colorIds := nodup_keys_filter _ ha.colorIds
    filenames := nodup_keys_filter _ ha.filenames
    onePlate := nodup_keys_filter _ ha.onePlate
    photoEvent := fun r hr => ha.photoEvent r (List.mem_filter.1 hr).1
    cyclistPhoto := by
      intro r hr
      obtain ⟨hr, hother⟩ := List.mem_filter.1 hr
      obtain ⟨p, hp, hid⟩ := List.mem_map.1 (ha.cyclistPhoto r hr)
      exact List.mem_map.2 ⟨p, List.mem_filter.2 ⟨hp, by simpa [ofPhoto, hid] using hother⟩, hid⟩
    plateCyclist := by
      intro r hr
      obtain ⟨hr, hother⟩ := List.mem_filter.1 hr
      exact mem_cyclists_deleted (ha.plateCyclist r hr) hother
    colorCyclist := by
      intro r hr
      obtain ⟨hr, hother⟩ := List.mem_filter.1 hr
      exact mem_cyclists_deleted (ha.colorCyclist r hr) hother }

/-- A statement of a classification keeps the constraints. -/
theorem classification {p : PhotoRow} {bs : List Bundle} {s : Statement} (hs : s ∈ classification p bs)
    (ha : a.Constrained) (h : s a = .ok a') : a'.Constrained := by
  rw [classification_eq, List.mem_cons, List.mem_append, List.mem_append] at hs
  rcases hs with rfl | (hs | hs) | hs
  · exact ha.markPhoto h
  · obtain ⟨b, -, rfl⟩ := List.mem_map.1 hs
    exact ha.addCyclist h
  · obtain ⟨c, -, rfl⟩ := List.mem_map.1 hs
    exact ha.addColor h
  · obtain ⟨q, -, rfl⟩ := List.mem_map.1 hs
    exact ha.addPlate h

/-- A write of one statement keeps the constraints if the statement does; a statement that is refused changes nothing. -/
theorem write {α : Type} {s : Statement} (answer : α) (ha : a.Constrained) (hs : ∀ {b}, s a = .ok b → b.Constrained) :
    (a.write answer [s]).2.Constrained := by
  rcases h : a.write answer [s] with ⟨f | b, a'⟩
  · rw [write_error h]
    exact ha
  · exact hs (write_ok h).1

/-- A transaction keeps the constraints if each of its statements does. -/
theorem transact {ss : List Statement} (ha : a.Constrained)
    (hs : ∀ s ∈ ss, ∀ b b', b.Constrained → s b = .ok b' → b'.Constrained) : (a.transact ss).2.Constrained := by
  rcases h : a.transact ss with ⟨f | ⟨⟨⟩⟩, a'⟩
  · rw [(transact_error h).1]
    exact ha
  · exact (transact_eq_ok_iff.1 h).keeps hs ha

/-- Whatever is asked of an archive, the constraints hold after the answer. -/
theorem answer (p : Port) (ha : a.Constrained) : (Archive.answer p a).2.Constrained := by
  cases p with
  | saveEvent e => exact ha.write _ ha.saveEvent
  | savePhoto q => exact ha.write _ ha.storePhoto
  | deletePhoto id => exact ha.write _ ha.deletePhoto
  | saveClassification q bs => exact ha.transact fun s hs b b' hb h => classification hs hb h
  | _ => exact ha

/-- Whoever answers a question, the constraints hold after the answer. -/
theorem answerWith {σ : Type} {supply : Handler σ} {w : World σ} (p : Port) (hw : w.archive.Constrained) :
    (World.answerWith supply p w).2.archive.Constrained := by
  cases ha : p.addressee with
  | supply =>
    rw [World.answerWith_supply ha]
    exact hw
  | archive =>
    rw [World.answerWith_archive ha]
    exact hw.answer p
  | storage =>
    rw [World.answerWith_storage ha]
    exact hw

/-- The constraints hold after each step of every program. -/
theorem step {α σ : Type} {supply : Handler σ} {w : World σ} (x : Program α) (hw : w.archive.Constrained) :
    (x.step (World.answerWith supply) w).2.archive.Constrained := by
  cases x with
  | done a => exact hw
  | failed f => exact hw
  | ask p next => exact hw.answerWith p

/-- The constraints hold after every run of every program. -/
theorem run {α σ : Type} {supply : Handler σ} {w : World σ} (x : Program α) (hw : w.archive.Constrained) :
    (x.run (World.answerWith supply) w).2.archive.Constrained := by
  induction x generalizing w with
  | done a => exact hw
  | failed f => exact hw
  | ask p next ih => exact ih _ (hw.answerWith p)

end Constrained

end Archive

end RaceAlbum
