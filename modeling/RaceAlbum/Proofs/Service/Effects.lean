import RaceAlbum.Proofs.Archive.Statements
import RaceAlbum.Proofs.Service.AllOrNothing
import RaceAlbum.Proofs.Service.Entities

/-!
# What a call does to the rows

`Effect` lists all that a call may do to the rows: nothing, or the one thing that it is for, made of the moments and
identifiers that it drew from the tape. `ServiceCall.effect` says that every call does one of these things. What is kept by
each of them is kept by every call.
-/

namespace RaceAlbum

open Program

/-- The row of an event as it is written at a moment: new, or changed or deleted while it was there. -/
structure EventRow.WrittenAt (a : Archive) (m : Moment) (r : EventRow) : Prop where
  updatedAt : r.updatedAt = m
  deletedAt : ∀ d ∈ r.deletedAt, d = m
  origin : (isEventName r.name = true ∧ r.createdAt = m) ∨
    ∃ s ∈ a.events, r.createdAt = s.createdAt ∧ (isEventName s.name = true → isEventName r.name = true)

/-- There is an event of an identifier, and it is not deleted. -/
def Archive.HasActiveEvent (a : Archive) (id : Uuid) : Prop := ∃ r ∈ a.events, r.isActive = true ∧ r.id = id

/-- No event is looked up where none is active. -/
theorem Archive.activeEvent?_eq_none_iff {a : Archive} {id : Uuid} : a.activeEvent? id = none ↔ ¬a.HasActiveEvent id := by
  simp [activeEvent?, HasActiveEvent]

/-- What a call may do to the rows with the readings `ms` and the identifiers `us`, and whether it succeeds. -/
inductive Effect (a : Archive) (ms : List Moment) (us : List Uuid) : ServiceCall → Bool → Archive → Prop where
  | nothing {c : ServiceCall} {succeeded : Bool} :
      (∀ id ds, c = .classify id ds → succeeded = false) → Effect a ms us c succeeded a
  | eventSaved {c : ServiceCall} {succeeded : Bool} {e : Event} {m : Moment} {a' : Archive} :
      (∀ id ds, c ≠ .classify id ds) → e.id ∈ us ∨ a.HasActiveEvent e.id → m ∈ ms →
        (EventRow.ofEntity e).WrittenAt a m → a.saveEvent e = .ok a' → Effect a ms us c succeeded a'
  | photosStored {id : Uuid} {files : List UploadedFile} {succeeded : Bool} {ps : List Photo} {a' : Archive} :
      a.HasActiveEvent id → (∀ p ∈ ps, ∃ file, p.Prepared id file) → (ps.map Photo.id).Sublist us →
        Made a (ps.map fun p a => a.storePhoto p) a' → Effect a ms us (.uploadPhotos id files) succeeded a'
  | photoDeleted {id : Uuid} {succeeded : Bool} {a' : Archive} :
      a.deletePhoto id = .ok a' → Effect a ms us (.deletePhoto id) succeeded a'
  | classified {id : Uuid} {ds : List Detection} {r : PhotoRow} {m : Moment} {bs : List Bundle} {a' : Archive} :
      a.photo? id = some r → m ∈ ms → List.Forall₂ (Bundle.Mirrors r.id) bs ds →
        (bs.map fun b => b.cyclist.id).Sublist us → (bs.flatMap Bundle.stamps).Sublist (ms.map .ofUtc) →
        Made a (Archive.classification (r.classifiedAt m) bs) a' → Effect a ms us (.classify id ds) true a'

variable {α : Type} {w w' : World Tape}

/-! ## Questions to the archive -/

/-- A question to the archive that is answered leaves tape and objects as they are. -/
theorem run_archive {p : Port} {r : Except Failure p.Answer} (hp : p.addressee = .archive)
    (h : run taped (call p) w = (r, w')) : Archive.answer p w.archive = (r, w'.archive) ∧ w'.supply = w.supply := by
  rw [run_call, taped, World.answerWith_archive hp] at h
  obtain ⟨rfl, rfl⟩ := Prod.mk.inj h
  exact ⟨rfl, rfl⟩

/-- An event that is found has its row in the archive and is not deleted. -/
theorem findEvent_ok {id : Uuid} {e : Event} (h : run taped (EventService.find id) w = (.ok e, w')) :
    w' = w ∧ ∃ r ∈ w.archive.events, r.isActive = true ∧ r.id = id ∧ e = r.entity := by
  obtain ⟨e?, w₁, he, h⟩ := run_bind_ok h
  obtain ⟨he, rfl⟩ := Prod.mk.inj he
  cases he
  obtain ⟨hfound, rfl⟩ := run_found_ok h
  obtain ⟨r, hr, rfl⟩ := Option.map_eq_some_iff.1 hfound
  have hactive := List.find?_some hr
  simp only [Bool.and_eq_true, beq_iff_eq] at hactive
  exact ⟨rfl, r, List.mem_of_find?_eq_some hr, hactive.1, hactive.2, rfl⟩

/-- A photo that is found has its row in the archive. -/
theorem findPhoto_ok {id : Uuid} {p : Photo} (h : run taped (PhotoService.find id) w = (.ok p, w')) :
    w' = w ∧ ∃ r, w.archive.photo? id = some r ∧ p = r.entity := by
  obtain ⟨p?, w₁, hp, h⟩ := run_bind_ok h
  obtain ⟨hp, rfl⟩ := Prod.mk.inj hp
  cases hp
  obtain ⟨hfound, rfl⟩ := run_found_ok h
  obtain ⟨r, hr, rfl⟩ := Option.map_eq_some_iff.1 hfound
  exact ⟨rfl, r, hr, rfl⟩

/-- An event that is saved is made a row. -/
theorem saveEvent_run_ok {e : Event} {id : Uuid} (h : run taped (EventService.save e) w = (.ok id, w')) :
    w.archive.saveEvent e = .ok w'.archive ∧ w'.supply = w.supply := by
  obtain ⟨saved, w₁, hs, h⟩ := run_bind_ok h
  obtain ⟨-, rfl⟩ := Prod.mk.inj h
  obtain ⟨hs, hsupply⟩ := run_archive rfl hs
  exact ⟨(Archive.write_ok hs).1, hsupply⟩

/-! ## Uploads -/

/-- A question to the store leaves tape and rows as they are. -/
theorem Asks.run_storage {x : Program α} (hx : Asks (fun p => p.addressee = .storage) x) (w : World Tape) :
    (run taped x w).2.archive = w.archive ∧ (run taped x w).2.supply = w.supply := by
  refine hx.run_rel (R := fun w w' => w'.archive = w.archive ∧ w'.supply = w.supply) (fun _ => ⟨rfl, rfl⟩) ?_ ?_ w
  · rintro w w₁ w' ⟨ha, hs⟩ ⟨ha', hs'⟩
    exact ⟨ha'.trans ha, hs'.trans hs⟩
  · intro p w hp
    rw [taped, World.answerWith_storage hp]
    exact ⟨rfl, rfl⟩

/-- Storing a file makes a row for its photo or leaves the rows as they are; then the upload ends. -/
theorem run_store {prepared : UploadedFile × Photo} {r : Except Failure Uuid}
    (h : run taped (PhotoService.store prepared) w = (r, w')) :
    w'.supply = w.supply ∧
      ((∃ id, r = .ok id ∧ w.archive.storePhoto prepared.2 = .ok w'.archive) ∨
        (∃ f, r = .error f ∧ w'.archive = w.archive)) := by
  obtain ⟨file, p⟩ := prepared
  have hput := Asks.run_storage (Asks.call (p := .putObject p.storageKey file.contentType file.data) rfl) w
  rcases run_bind_cases h with ⟨f, rfl, hf⟩ | ⟨_, w₁, hok, h⟩
  · rw [hf] at hput
    exact ⟨hput.2, .inr ⟨f, rfl, hput.1⟩⟩
  rw [hok] at hput
  obtain ⟨ha₁, hs₁⟩ : w₁.archive = w.archive ∧ w₁.supply = w.supply := hput
  have h := (run_attempt_bind (call (.savePhoto p)) _ w₁).symm.trans h
  rcases hsave : run taped (call (.savePhoto p)) w₁ with ⟨f | saved, w₂⟩
  · rw [hsave] at h
    obtain ⟨hsave, hs₂⟩ := run_archive rfl hsave
    have ha₂ := Archive.answer_error hsave
    have hdiscard := Asks.run_storage (discard_asks p.storageKey) w₂
    have hsame : w'.archive = w₂.archive ∧ w'.supply = w₂.supply ∧ ∃ g, r = .error g := by
      rcases run_bind_cases h with ⟨g, hg, hd⟩ | ⟨_, w₃, hd, h⟩
      · rw [hd] at hdiscard
        exact ⟨hdiscard.1, hdiscard.2, g, hg⟩
      · rw [hd] at hdiscard
        obtain ⟨hr, rfl⟩ := Prod.mk.inj h
        exact ⟨hdiscard.1, hdiscard.2, f, hr.symm⟩
    obtain ⟨ha₃, hs₃, g, hg⟩ := hsame
    exact ⟨hs₃.trans (hs₂.trans hs₁), .inr ⟨g, hg, ha₃.trans (ha₂.trans ha₁)⟩⟩
  · rw [hsave] at h
    obtain ⟨hr, rfl⟩ := Prod.mk.inj h
    obtain ⟨hsave, hs₂⟩ := run_archive rfl hsave
    rw [ha₁] at hsave
    exact ⟨hs₂.trans hs₁, .inl ⟨_, hr.symm, (Archive.write_ok hsave).1⟩⟩

/-- The photos of an upload that were made rows: those of its first files, up to the first file that was refused. -/
theorem run_stores {prepared : List (UploadedFile × Photo)} {r : Except Failure (List Uuid)}
    (h : run taped (forAll PhotoService.store prepared) w = (r, w')) :
    w'.supply = w.supply ∧
      ∃ stored : List (UploadedFile × Photo), stored.Sublist prepared ∧
        Made w.archive (stored.map fun q a => a.storePhoto q.2) w'.archive := by
  induction prepared generalizing w r with
  | nil =>
    obtain ⟨-, rfl⟩ := Prod.mk.inj h
    exact ⟨rfl, [], .slnil, .nil _⟩
  | cons q rest ih =>
    rcases run_bind_cases h with ⟨f, rfl, hf⟩ | ⟨id, w₁, hq, h⟩
    · obtain ⟨hs, ⟨_, hr, -⟩ | ⟨_, _, ha⟩⟩ := run_store hf
      · cases hr
      · exact ⟨hs, [], List.nil_sublist _, made_nil_iff.2 ha⟩
    · obtain ⟨hs, ⟨_, _, hstore⟩ | ⟨_, hr, -⟩⟩ := run_store hq
      · obtain ⟨r', hrest⟩ : ∃ r', run taped (forAll PhotoService.store rest) w₁ = (r', w') := by
          rcases run_bind_cases h with ⟨f, -, hf⟩ | ⟨ids, w₂, hok, h⟩
          · exact ⟨_, hf⟩
          · obtain ⟨-, rfl⟩ := Prod.mk.inj h
            exact ⟨_, hok⟩
        obtain ⟨hs', stored, hsub, hmade⟩ := ih hrest
        exact ⟨hs'.trans hs, q :: stored, hsub.cons_cons q, .cons hstore hmade⟩
      · cases hr

/-! ## All calls -/

theorem createEvent_effect {n : NewEvent} {id : Uuid} (h : run taped (EventService.create n) w = (.ok id, w')) :
    ∃ ms us, w.supply.Reads w'.supply ms us ∧ Effect w.archive ms us (.createEvent n) true w'.archive := by
  obtain ⟨e, w₁, he, h⟩ := run_bind_ok h
  obtain ⟨s, ⟨ms, us, hd, hid, hs⟩, hname, haudit⟩ := createEvent_ok he
  obtain ⟨hsave, hsupply⟩ := saveEvent_run_ok h
  obtain ⟨m, hm, rfl⟩ := List.mem_map.1 (List.singleton_sublist.1 hs)
  rw [hd.archive] at hsave
  have hdrawn : e.id ∈ us := List.singleton_sublist.1 hid
  refine ⟨ms, us, hsupply ▸ hd.reads, .eventSaved nofun (.inl hdrawn) hm ⟨?_, ?_, .inl ⟨hname, ?_⟩⟩ hsave⟩
  · simp [EventRow.ofEntity, haudit, Stamp.ofUtc]
  · simp [EventRow.ofEntity, haudit]
  · simp [EventRow.ofEntity, haudit, Stamp.ofUtc]

theorem updateEvent_effect {target : Uuid} {patch : EventPatch} {id : Uuid}
    (h : run taped (EventService.update target patch) w = (.ok id, w')) :
    ∃ ms us, w.supply.Reads w'.supply ms us ∧ Effect w.archive ms us (.updateEvent target patch) true w'.archive := by
  obtain ⟨e, w₁, hfind, h⟩ := run_bind_ok h
  obtain ⟨rfl, r, hr, hactive, -, rfl⟩ := findEvent_ok hfind
  obtain ⟨⟨e', f?⟩, w₂, hupdate, h⟩ := run_bind_ok h
  cases f? with
  | some f => cases (Prod.mk.inj h).1
  | none =>
    obtain ⟨s, ⟨ms, us, hd, -, hs⟩, hid, hname, haudit⟩ := updateEvent_ok hupdate
    obtain ⟨hsave, hsupply⟩ := saveEvent_run_ok h
    obtain ⟨m, hm, rfl⟩ := List.mem_map.1 (List.singleton_sublist.1 hs)
    rw [hd.archive] at hsave
    have hundeleted : r.deletedAt = none := by simpa [EventRow.isActive] using hactive
    refine ⟨ms, us, hsupply ▸ hd.reads, .eventSaved nofun (.inr ⟨r, hr, hactive, hid.symm⟩) hm
      ⟨?_, ?_, .inr ⟨r, hr, ?_, hname⟩⟩ hsave⟩
    · simp [EventRow.ofEntity, haudit, Stamp.ofUtc]
    · simp [EventRow.ofEntity, haudit, EventRow.entity, hundeleted]
    · simp [EventRow.ofEntity, haudit, EventRow.entity, Stamp.ofUtc]

theorem deleteEvent_effect {target id : Uuid} (h : run taped (EventService.delete target) w = (.ok id, w')) :
    ∃ ms us, w.supply.Reads w'.supply ms us ∧ Effect w.archive ms us (.deleteEvent target) true w'.archive := by
  obtain ⟨e, w₁, hfind, h⟩ := run_bind_ok h
  obtain ⟨rfl, r, hr, hactive, -, rfl⟩ := findEvent_ok hfind
  obtain ⟨e', w₂, hdelete, h⟩ := run_bind_ok h
  obtain ⟨s, ⟨ms, us, hd, -, hs⟩, hid, hname, haudit⟩ := softDelete_ok hdelete
  obtain ⟨hsave, hsupply⟩ := saveEvent_run_ok h
  obtain ⟨m, hm, rfl⟩ := List.mem_map.1 (List.singleton_sublist.1 hs)
  rw [hd.archive] at hsave
  have hname' : isEventName r.name = true → isEventName (EventRow.ofEntity e').name = true := by
    simp [EventRow.ofEntity, hname, EventRow.entity]
  refine ⟨ms, us, hsupply ▸ hd.reads, .eventSaved nofun (.inr ⟨r, hr, hactive, hid.symm⟩) hm
    ⟨?_, ?_, .inr ⟨r, hr, ?_, hname'⟩⟩ hsave⟩
  · simp [EventRow.ofEntity, haudit, Stamp.ofUtc]
  · simp [EventRow.ofEntity, haudit, Stamp.ofUtc]
  · simp [EventRow.ofEntity, haudit, EventRow.entity, Stamp.ofUtc]

/-- What asks for no change has no effect. -/
theorem noWrite_effect {c : ServiceCall} {succeeded : Bool} {x : Program α} {r : Except Failure α} (hx : AsksNoWrite x)
    (h : run taped x w = (r, w')) (hc : ∀ id ds, c = .classify id ds → succeeded = false) :
    ∃ ms us, w.supply.Reads w'.supply ms us ∧ Effect w.archive ms us c succeeded w'.archive := by
  obtain ⟨ms, us, hd⟩ := hx.run_drew h
  exact ⟨ms, us, hd.reads, hd.archive ▸ .nothing hc⟩

/-- The photos of the files of an upload, and the identifiers that were drawn for them. -/
theorem prepareAll_ok {eventId : Uuid} {files : List UploadedFile} {prepared : List (UploadedFile × Photo)}
    (h : run taped (forAll (PhotoService.prepare eventId) files) w = (.ok prepared, w')) :
    Gave w w' (prepared.map fun q => q.2.id) [] ∧ ∀ q ∈ prepared, q.2.Prepared eventId q.1 := by
  obtain ⟨hgave, hall⟩ := Gave.of_forAll (fun q : UploadedFile × Photo => [q.2.id]) (fun _ => [])
    (R := fun q _ => q.2.Prepared eventId q.1) (fun file q w w' hq => by
      obtain ⟨hg, rfl, hp⟩ := prepare_ok hq
      exact ⟨hg, hp⟩) h
  rw [← List.map_eq_flatMap] at hgave
  refine ⟨hgave.weaken (.refl _) (List.nil_sublist _), fun q hq => ?_⟩
  obtain ⟨_, -, hprepared⟩ := exists_of_forall₂ hall hq
  exact hprepared

theorem uploadPhotos_effect {eventId : Uuid} {files : List UploadedFile} {r : Except Failure (List Uuid)}
    (h : run taped (PhotoService.upload eventId files) w = (r, w')) :
    ∃ ms us, w.supply.Reads w'.supply ms us ∧
      Effect w.archive ms us (.uploadPhotos eventId files) r.isOk w'.archive := by
  rcases run_bind_cases h with ⟨f, rfl, hf⟩ | ⟨e?, w₁, he, h⟩
  · exact noWrite_effect (call_asksNoWrite rfl) hf nofun
  obtain ⟨hfind, rfl⟩ := Prod.mk.inj he
  cases e? with
  | none =>
    obtain ⟨-, rfl⟩ := Prod.mk.inj h
    exact ⟨[], [], .refl _, .nothing nofun⟩
  | some e =>
    obtain ⟨row, hrow, -⟩ := Option.map_eq_some_iff.1 (Except.ok.inj hfind)
    have hactive : w.archive.HasActiveEvent eventId :=
      ⟨row, List.mem_of_find?_eq_some hrow, by simpa using List.find?_some hrow⟩
    have h : run taped (forAll (PhotoService.prepare eventId) files >>= forAll PhotoService.store) w = (r, w') := h
    rcases run_bind_cases h with ⟨f, rfl, hf⟩ | ⟨prepared, w₁, hprepared, h⟩
    · exact noWrite_effect (.forAll (fun file => (prepare_asksSupply eventId file).noWrite) files) hf nofun
    · obtain ⟨⟨ms, us, hd, hids, -⟩, hall⟩ := prepareAll_ok hprepared
      obtain ⟨hsupply, stored, hsub, hmade⟩ := run_stores h
      have hmade : Made w.archive ((stored.map Prod.snd).map fun p a => a.storePhoto p) w'.archive := by
        rw [List.map_map]
        exact hd.archive ▸ hmade
      refine ⟨ms, us, hsupply ▸ hd.reads, .photosStored hactive ?_ ?_ hmade⟩
      · intro p hp
        obtain ⟨q, hq, rfl⟩ := List.mem_map.1 hp
        exact ⟨q.1, hall q (hsub.subset hq)⟩
      · rw [List.map_map]
        exact (hsub.map _).trans hids

theorem deletePhoto_effect {target : Uuid} {r : Except Failure Uuid}
    (h : run taped (PhotoService.delete target) w = (r, w')) :
    ∃ ms us, w.supply.Reads w'.supply ms us ∧ Effect w.archive ms us (.deletePhoto target) r.isOk w'.archive := by
  rcases run_bind_cases h with ⟨f, rfl, hf⟩ | ⟨p, w₁, hfind, h⟩
  · exact noWrite_effect (findPhoto_asksNoWrite target) hf nofun
  obtain ⟨rfl, row, hrow, rfl⟩ := findPhoto_ok hfind
  rcases run_bind_cases h with ⟨f, rfl, hf⟩ | ⟨_, w₂, hdelete, h⟩
  · obtain ⟨hf, hsupply⟩ := run_archive rfl hf
    exact ⟨[], [], hsupply ▸ .refl _, Archive.answer_error hf ▸ .nothing nofun⟩
  · obtain ⟨hdelete, hsupply⟩ := run_archive rfl hdelete
    have hremove : Asks (fun p => p.addressee = .storage)
        (call (.removeObject row.entity.storageKey) >>= fun _ => pure row.entity.id) := by
      have hcall : Asks (fun p => p.addressee = .storage) (call (.removeObject row.entity.storageKey)) := .call rfl
      exact hcall.bind fun _ => .done _
    have hrest := Asks.run_storage hremove w₂
    rw [h] at hrest
    refine ⟨[], [], (hrest.2.trans hsupply) ▸ .refl _, .photoDeleted ?_⟩
    rw [hrest.1]
    have hid : row.id = target := by simpa using List.find?_some hrow
    exact hid ▸ (Archive.write_ok hdelete).1

theorem classify_effect {target : Uuid} {ds : List Detection} {id : Uuid}
    (h : run taped (ClassificationService.classify target ds) w = (.ok id, w')) :
    ∃ ms us, w.supply.Reads w'.supply ms us ∧ Effect w.archive ms us (.classify target ds) true w'.archive := by
  obtain ⟨p, w₁, hfind, h⟩ := run_bind_ok h
  obtain ⟨rfl, r, hr, rfl⟩ := findPhoto_ok hfind
  obtain ⟨bs, w₂, hbs, h⟩ := run_bind_ok h
  obtain ⟨p', w₃, hcomplete, h⟩ := run_bind_ok h
  obtain ⟨_, w₄, hsave, h⟩ := run_bind_ok h
  obtain ⟨-, rfl⟩ := Prod.mk.inj h
  obtain ⟨hgave, hmirrors⟩ := ofDetections_ok hbs
  obtain ⟨s, hstamp, rfl⟩ := complete_ok hcomplete
  obtain ⟨hsave, hsupply⟩ := run_archive rfl hsave
  obtain ⟨ms, us, hd, hids, hstamps⟩ := hgave
  obtain ⟨ms', us', hd', -, hs⟩ := hstamp
  obtain ⟨m, hm, rfl⟩ := List.mem_map.1 (List.singleton_sublist.1 hs)
  have hmade := Archive.transact_eq_ok_iff.1 hsave
  rw [(hd.trans hd').archive] at hmade
  refine ⟨ms ++ ms', us ++ us', hsupply ▸ (hd.trans hd').reads, .classified hr (List.mem_append_right _ hm) hmirrors
    (((cyclistIds_sublist bs).trans hids).trans (List.sublist_append_left _ _)) ?_ ?_⟩
  · rw [List.map_append]
    exact hstamps.trans (List.sublist_append_left _ _)
  · have hrow : PhotoRow.ofEntity { r.entity with
        status := .completed, unclassifiedReason := none, processedAt := some (.ofUtc m) } = r.classifiedAt m := by
      simp [PhotoRow.ofEntity, PhotoRow.entity, PhotoRow.classifiedAt, Stamp.ofUtc, Function.comp_def]
    rw [← hrow]
    exact hmade

namespace ServiceCall

/-- A call that fails has no effect, unless it uploads or deletes photos. -/
theorem effect_of_error {c : ServiceCall} {f : Failure} (hupload : c.isUpload = false) (hdelete : ¬c.DeletesPhoto)
    (h : run taped c.program w = (.error f, w')) :
    ∃ ms us, w.supply.Reads w'.supply ms us ∧ Effect w.archive ms us c false w'.archive := by
  obtain ⟨ms, us, hreads⟩ := run_reads c.program w
  have hsame := (program_writesOnce hupload).run_error (fun hc => absurd hc hdelete) h
  rw [h] at hreads
  exact ⟨ms, us, hreads, hsame.1 ▸ .nothing fun _ _ _ => rfl⟩

/-- Every call of checked messages has one of the listed effects, made of what it drew from the tape. -/
theorem effect {c : ServiceCall} (hc : ∀ id ds, c ≠ .classifyLoose id ds) {r : Except Failure c.Answer}
    (h : run taped c.program w = (r, w')) :
    ∃ ms us, w.supply.Reads w'.supply ms us ∧ Effect w.archive ms us c r.isOk w'.archive := by
  cases c with
  | uploadPhotos eventId files => exact uploadPhotos_effect h
  | deletePhoto id => exact deletePhoto_effect h
  | createEvent n =>
    cases r with
    | error f => exact effect_of_error rfl (by simp [DeletesPhoto]) h
    | ok id => exact createEvent_effect h
  | updateEvent id patch =>
    cases r with
    | error f => exact effect_of_error rfl (by simp [DeletesPhoto]) h
    | ok id => exact updateEvent_effect h
  | deleteEvent id =>
    cases r with
    | error f => exact effect_of_error rfl (by simp [DeletesPhoto]) h
    | ok id => exact deleteEvent_effect h
  | classify id ds =>
    cases r with
    | error f => exact effect_of_error rfl (by simp [DeletesPhoto]) h
    | ok id => exact classify_effect h
  | classifyLoose id ds => exact absurd rfl (hc id ds)
  | getEvent id => exact noWrite_effect ((call_asksNoWrite rfl).bind fun _ => .found _ _ _) h (by simp)
  | listEvents page => exact noWrite_effect (call_asksNoWrite rfl) h (by simp)
  | getPhoto id =>
    exact noWrite_effect ((call_asksNoWrite rfl).bind fun _ => (Asks.found _ _ _).bind fun _ =>
      (call_asksNoWrite rfl).bind fun _ => .done _) h (by simp)
  | listPhotos eventId page => exact noWrite_effect (call_asksNoWrite rfl) h (by simp)
  | searchPhotos filters page => exact noWrite_effect (call_asksNoWrite rfl) h (by simp)

end ServiceCall

end RaceAlbum
