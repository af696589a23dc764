import RaceAlbum.Proofs.Service.Effects
import RaceAlbum.Proofs.Service.Storing
import RaceAlbum.Proofs.World.Supplies

/-!
# What an upload leaves behind

`UploadEnds` lists the ends of an upload: its event is not there; a file is refused before anything is stored; a file is stopped
when it is its turn; or all files are stored. In each case it is said what the caller is told and which rows and objects there
are afterwards. Every upload that has what it relies on ends in one of these ways (`upload_ends`).
-/

namespace RaceAlbum

open Program

variable {σ : Type}

/-- What an upload relies on: photos may be added, the store is sound, the files have sizes of 64 bits, and the tape holds enough
moments and enough identifiers, which differ, are of no photo and make keys that nothing is stored under. -/
structure World.IsOpenTo (w : World Tape) (eventId : Uuid) (files : List UploadedFile) : Prop where
  unblocked : w.archive.isBlocked .photos .insert = false
  sound : w.storage.IsSound
  sizes : ∀ file ∈ files, isInt64 file.data.length = true
  supply : w.supply.Holds files.length (2 * files.length)
  distinct : w.supply.ids.Nodup
  newIds : ∀ r ∈ w.archive.photos, r.id ∉ w.supply.ids
  newKeys : ∀ i ∈ intakes eventId files w.supply, w.storage.object? i.key = none

/-- The files that are done have a row and an object, the others have neither, and all else is as it was. -/
structure World.Took (w w' : World Tape) (done left : List Intake) : Prop where
  archive : w'.archive = { w.archive with photos := w.archive.photos ++ done.map Intake.row }
  objects : ∀ i ∈ done, w'.storage.object? i.key = some i.file.data
  noRow : ∀ i ∈ left, ∀ r ∈ w'.archive.photos, r.id ≠ i.id
  noObject : ∀ i ∈ left, w'.storage.object? i.key = none
  others : ∀ p, (∀ i ∈ done, w.storage.placeOf? i.key ≠ some p) → w'.storage.contents p = w.storage.contents p

/-- How an upload ends: what the caller is told, and the world that is left. -/
inductive UploadEnds (w : World Tape) (eventId : Uuid) (files : List UploadedFile) :
    Except Failure (List Uuid) → World Tape → Prop where
  /-- The event is not there, or it is deleted. Nothing has changed. -/
  | noEvent : ¬w.archive.HasActiveEvent eventId →
      UploadEnds w eventId files (.error (.notFound EventService.entity eventId)) w
  /-- The first file that is refused is so before the store is asked for anything. -/
  | refused {f : Failure} {w' : World Tape} : w.archive.HasActiveEvent eventId →
      (intakes eventId files w.supply).findSome? Intake.refusal? = some f → w.SameStores w' →
      (∀ q w₁, Asked taped (PhotoService.upload eventId files) w q w₁ → q.addressee ≠ .storage ∧ q.isWrite = false) →
      UploadEnds w eventId files (.error f) w'
  /-- The first file that is stopped is not stored, and the upload goes no further. -/
  | stopped {before after : List Intake} {i : Intake} {f : Failure} {w' : World Tape} :
      w.archive.HasActiveEvent eventId → (intakes eventId files w.supply).findSome? Intake.refusal? = none →
      intakes eventId files w.supply = before ++ i :: after → w.Passes before → i.stop? (w.withIntakes before) = some f →
      w.Took w' before (i :: after) → UploadEnds w eventId files (.error f) w'
  /-- All files are stored. -/
  | stored {w' : World Tape} : w.archive.HasActiveEvent eventId →
      (intakes eventId files w.supply).findSome? Intake.refusal? = none → w.Passes (intakes eventId files w.supply) →
      w.Took w' (intakes eventId files w.supply) [] →
      UploadEnds w eventId files (.ok ((intakes eventId files w.supply).map fun i => i.id)) w'

namespace World

variable {w w' : World Tape} {eventId : Uuid} {files : List UploadedFile} {is before after : List Intake}

/-- The first file that is stopped, if any is. -/
theorem passes_or_stopped (w : World Tape) (is : List Intake) :
    w.Passes is ∨ ∃ before i after f, is = before ++ i :: after ∧ w.Passes before ∧
      i.stop? (w.withIntakes before) = some f := by
  induction is generalizing w with
  | nil => exact .inl (.nil w)
  | cons i is ih =>
    cases hstop : i.stop? w with
    | some f => exact .inr ⟨[], i, is, f, rfl, .nil w, hstop⟩
    | none =>
      rcases ih (w.withIntake i) with hpasses | ⟨before, j, after, f, rfl, hpasses, hf⟩
      · exact .inl (.of_cons hstop hpasses)
      · exact .inr ⟨i :: before, j, after, f, rfl, .of_cons hstop hpasses, hf⟩

/-- The rows after intakes. -/
theorem withIntakes_archive (w : World Tape) (is : List Intake) :
    (w.withIntakes is).archive = { w.archive with photos := w.archive.photos ++ is.map Intake.row } := by
  induction is generalizing w with
  | nil => simp [withIntakes]
  | cons i is ih =>
    have hrest : (w.withIntakes (i :: is)).archive = ((w.withIntake i).withIntakes is).archive := rfl
    rw [hrest, ih]
    simp [withIntake]

/-- What is on the tape has no part in how files are stored. -/
theorem withIntakes_supply (w : World Tape) (t : Tape) (is : List Intake) :
    withIntakes { w with supply := t } is = { w.withIntakes is with supply := t } := by
  induction is generalizing w with
  | nil => rfl
  | cons i is ih => exact ih (w.withIntake i)

theorem passes_supply_iff {t : Tape} : Passes { w with supply := t } is ↔ w.Passes is := by
  refine forall_congr' fun before => forall_congr' fun i => forall_congr' fun after => forall_congr' fun _ => ?_
  rw [withIntakes_supply]
  exact Iff.rfl

namespace IsOpenTo

/-- There is room for all files. -/
theorem hasRoomFor (h : w.IsOpenTo eventId files) (hevent : w.archive.HasActiveEvent eventId) :
    w.archive.HasRoomFor (intakes eventId files w.supply) where
  unblocked := h.unblocked
  event i hi := by
    obtain ⟨row, hrow, -, hid⟩ := hevent
    rw [(mem_intakes hi).1]
    exact Archive.hasEvent_iff.2 ⟨row, hrow, hid⟩
  sizes i hi := h.sizes _ (mem_intakes hi).2
  distinct := (intakes_drawn eventId files w.supply).2.nodup h.distinct
  newIds i hi r hr heq := h.newIds r hr <| heq ▸
    (intakes_drawn eventId files w.supply).2.subset (List.mem_map.2 ⟨i, hi, rfl⟩)

/-- Intakes that are not done have other identifiers, and keys with other fresh identifiers, than those that are. -/
theorem differ (h : w.IsOpenTo eventId files) (hsplit : intakes eventId files w.supply = before ++ after) {i j : Intake}
    (hj : j ∈ before) (hi : i ∈ after) : j.id ≠ i.id ∧ j.mark ≠ i.mark := by
  obtain ⟨hmarks, hids⟩ := intakes_drawn eventId files w.supply
  rw [hsplit, List.map_append] at hmarks hids
  exact ⟨(List.nodup_append.1 (hids.nodup h.distinct)).2.2 _ (List.mem_map_of_mem hj) _ (List.mem_map_of_mem hi),
    (List.nodup_append.1 (hmarks.nodup h.distinct)).2.2 _ (List.mem_map_of_mem hj) _ (List.mem_map_of_mem hi)⟩

/-- The objects of files that nothing stops are gained. -/
theorem gains (h : w.IsOpenTo eventId files) (hsplit : intakes eventId files w.supply = before ++ after)
    (hpasses : w.Passes before) : w.storage.Gains (w.withIntakes before).storage before := by
  have hmarks := (intakes_drawn eventId files w.supply).1
  rw [hsplit, List.map_append] at hmarks
  exact hpasses.gains h.sound (List.nodup_append.1 (hmarks.nodup h.distinct)).1

/-- What is left behind, if the rows are those of the files that were done and their objects were gained. -/
theorem took (h : w.IsOpenTo eventId files) (hsplit : intakes eventId files w.supply = before ++ after)
    (harchive : w'.archive = (w.withIntakes before).archive) (hgains : w.storage.Gains w'.storage before) :
    w.Took w' before after := by
  have hrows := harchive.trans (withIntakes_archive w before)
  have hmem {i : Intake} (hi : i ∈ after) : i ∈ intakes eventId files w.supply :=
    hsplit ▸ List.mem_append_right before hi
  refine ⟨hrows, hgains.objects, fun i hi r hr heq => ?_, fun i hi => ?_, hgains.others⟩
  · rw [hrows] at hr
    rcases List.mem_append.1 hr with hr | hr
    · exact h.newIds r hr (heq ▸ (intakes_drawn eventId files w.supply).2.subset (List.mem_map.2 ⟨i, hmem hi, rfl⟩))
    · obtain ⟨j, hj, rfl⟩ := List.mem_map.1 hr
      exact (h.differ hsplit hj hi).1 heq
  · exact hgains.object?_eq_none (h.newKeys i (hmem hi)) fun j hj => (h.differ hsplit hj hi).2

end IsOpenTo

end World

/-! ## The whole upload -/

/-- An upload to an event that is there prepares its files and stores them. -/
theorem upload_run {w : World Tape} {eventId : Uuid} (hevent : w.archive.HasActiveEvent eventId)
    (files : List UploadedFile) :
    ∃ e, run taped (call (.findEvent eventId)) w = (.ok (some e), w) ∧
      run taped (PhotoService.upload eventId files) w =
        run taped (forAll (PhotoService.prepare eventId) files >>= forAll PhotoService.store) w := by
  cases hfind : w.archive.activeEvent? eventId with
  | none => exact absurd hevent (Archive.activeEvent?_eq_none_iff.1 hfind)
  | some row =>
    have hcall : run taped (call (.findEvent eventId)) w = (.ok (some row.entity), w) := by
      rw [run_call, taped, World.answerWith_archive rfl]
      change (Except.ok ((w.archive.activeEvent? eventId).map EventRow.entity), w) = _
      rw [hfind]
      rfl
    exact ⟨row.entity, hcall, (run_bind_of_ok hcall).trans rfl⟩

/-- An upload to an event that is there asks for the event, and then what preparing and storing ask. -/
theorem asked_upload_iff {w w' : World Tape} {eventId : Uuid} {files : List UploadedFile} {e : Event} {q : Port}
    (hcall : run taped (call (.findEvent eventId)) w = (.ok (some e), w)) :
    Asked taped (PhotoService.upload eventId files) w q w' ↔
      Asked taped (call (.findEvent eventId)) w q w' ∨
        Asked taped (forAll (PhotoService.prepare eventId) files >>= forAll PhotoService.store) w q w' := by
  refine Asked.bind_iff.trans (or_congr_right ⟨?_, fun hq => ⟨some e, w, hcall, hq⟩⟩)
  rintro ⟨e?, w₁, hrun, hq⟩
  obtain ⟨he, rfl⟩ := Prod.mk.inj (hcall.symm.trans hrun)
  cases he
  exact hq

/-- An upload whose files are prepared stores them where nothing stops it. -/
theorem storing_run {w : World Tape} {eventId : Uuid} {files : List UploadedFile} (t : Tape)
    (hopen : w.IsOpenTo eventId files) (hevent : w.archive.HasActiveEvent eventId)
    (hpasses : w.Passes (intakes eventId files w.supply)) :
    ∃ w', run taped (forAll PhotoService.store ((intakes eventId files w.supply).map Intake.prepared))
        { w with supply := t } = (.ok ((intakes eventId files w.supply).map fun i => i.id), w') ∧
      w.Took w' (intakes eventId files w.supply) [] := by
  have hstored := storeAll_run (w := { w with supply := t }) (hopen.hasRoomFor hevent) (World.passes_supply_iff.2 hpasses)
  rw [World.withIntakes_supply] at hstored
  have hsplit : intakes eventId files w.supply = intakes eventId files w.supply ++ [] := (List.append_nil _).symm
  exact ⟨_, hstored, hopen.took hsplit rfl (hopen.gains hsplit hpasses)⟩

/-- An upload whose files are prepared stores them, or is stopped at one of them. -/
theorem storing_ends {w w' : World Tape} {eventId : Uuid} {files : List UploadedFile} {r : Except Failure (List Uuid)}
    {t : Tape} (hopen : w.IsOpenTo eventId files) (hevent : w.archive.HasActiveEvent eventId)
    (hrefusal : (intakes eventId files w.supply).findSome? Intake.refusal? = none)
    (hremovals : RemovalsSucceed taped
      (forAll PhotoService.store ((intakes eventId files w.supply).map Intake.prepared)) { w with supply := t })
    (hrun : run taped (forAll PhotoService.store ((intakes eventId files w.supply).map Intake.prepared))
      { w with supply := t } = (r, w')) : UploadEnds w eventId files r w' := by
  have hroom : World.archive { w with supply := t } |>.HasRoomFor (intakes eventId files w.supply) :=
    hopen.hasRoomFor hevent
  rcases w.passes_or_stopped (intakes eventId files w.supply) with hpasses | ⟨before, i, after, f, hsplit, hpasses, hstop⟩
  · obtain ⟨w₁, hstored, htook⟩ := storing_run t hopen hevent hpasses
    rw [hstored] at hrun
    obtain ⟨rfl, rfl⟩ := Prod.mk.inj hrun
    exact .stored hevent hrefusal hpasses htook
  · have hstop' : i.stop? (World.withIntakes { w with supply := t } before) = some f := by
      rw [World.withIntakes_supply]
      exact hstop
    rw [hsplit] at hroom hremovals hrun
    obtain ⟨w₁, hstopped, harchive, hattempt⟩ :=
      storeAll_stopped hroom (World.passes_supply_iff.2 hpasses) hstop' hremovals
    rw [hstopped] at hrun
    obtain ⟨rfl, rfl⟩ := Prod.mk.inj hrun
    rw [World.withIntakes_supply] at harchive hattempt
    have hgains := hopen.gains hsplit hpasses
    have hi : i ∈ intakes eventId files w.supply := hsplit ▸ List.mem_append_right before List.mem_cons_self
    have hfree := hgains.object?_eq_none (hopen.newKeys i hi) fun j hj => (hopen.differ hsplit hj List.mem_cons_self).2
    exact .stopped hevent hrefusal hsplit hpasses hstop (hopen.took hsplit harchive (hgains.attempted hfree hattempt))

/-- An upload to an event that is there stores its files, if none is refused and nothing stops it. -/
theorem upload_stores {w : World Tape} {eventId : Uuid} {files : List UploadedFile} (hopen : w.IsOpenTo eventId files)
    (hevent : w.archive.HasActiveEvent eventId)
    (hrefusal : (intakes eventId files w.supply).findSome? Intake.refusal? = none)
    (hpasses : w.Passes (intakes eventId files w.supply)) :
    ∃ w', run taped (PhotoService.upload eventId files) w =
        (.ok ((intakes eventId files w.supply).map fun i => i.id), w') ∧
      w.Took w' (intakes eventId files w.supply) [] := by
  obtain ⟨e, -, hupload⟩ := upload_run hevent files
  have hasks : AsksSupply (forAll (PhotoService.prepare eventId) files) := .forAll (prepare_asksSupply eventId) files
  have hprepared := prepareAll_run eventId hopen.supply
  rw [hrefusal] at hprepared
  rcases hrun : run taped (forAll (PhotoService.prepare eventId) files) w with ⟨r, t, a, s⟩
  obtain ⟨rfl, rfl⟩ : a = w.archive ∧ s = w.storage := hasks.noWrite.run_sameStores hrun
  rw [hrun] at hprepared
  obtain rfl : r = .ok _ := hprepared
  obtain ⟨w', hstored, htook⟩ := storing_run t hopen hevent hpasses
  exact ⟨w', hupload.trans ((run_bind_of_ok hrun).trans hstored), htook⟩

/-- Every upload ends in one of the ways that are listed, whatever rows and objects there are, whatever its files are and
whichever of them cannot be stored, as long as objects that are to be removed can be. -/
theorem upload_ends (eventId : Uuid) (files : List UploadedFile) {w : World Tape} (hopen : w.IsOpenTo eventId files)
    (hremovals : RemovalsSucceed taped (PhotoService.upload eventId files) w) :
    (intakes eventId files w.supply).map (fun i => i.file) = files ∧
      ∃ r w', run taped (PhotoService.upload eventId files) w = (r, w') ∧ UploadEnds w eventId files r w' := by
  refine ⟨intakes_files eventId hopen.supply, ?_⟩
  by_cases hevent : w.archive.HasActiveEvent eventId
  · obtain ⟨e, hcall, hupload⟩ := upload_run hevent files
    rw [hupload]
    have hasks : AsksSupply (forAll (PhotoService.prepare eventId) files) := .forAll (prepare_asksSupply eventId) files
    have hprepared := prepareAll_run eventId hopen.supply
    rcases hrun : run taped (forAll (PhotoService.prepare eventId) files) w with ⟨r, w₁⟩
    have hsame : w.SameStores w₁ := hasks.noWrite.run_sameStores hrun
    rw [hrun] at hprepared
    cases hrefusal : (intakes eventId files w.supply).findSome? Intake.refusal? with
    | some f =>
      rw [hrefusal] at hprepared
      obtain rfl : r = .error f := hprepared
      refine ⟨.error f, w₁, run_bind_of_error hrun, .refused hevent hrefusal hsame fun q w₂ hq => ?_⟩
      have hread : Asks (fun q => q.addressee ≠ .storage ∧ q.isWrite = false) (call (.findEvent eventId)) :=
        .call ⟨nofun, rfl⟩
      rcases (asked_upload_iff hcall).1 hq with hq | hq
      · exact hread.asked hq
      · rcases Asked.bind_iff.1 hq with hq | ⟨a, w₃, hok, -⟩
        · have hsupply := hasks.asked hq
          exact ⟨by rw [hsupply]; exact nofun, Port.isWrite_of_supply hsupply⟩
        · rw [hrun] at hok
          cases hok
    | none =>
      rw [hrefusal] at hprepared
      obtain rfl : r = .ok _ := hprepared
      obtain ⟨t, a, s⟩ := w₁
      obtain ⟨rfl, rfl⟩ := hsame
      refine ⟨_, _, run_bind_of_ok hrun, storing_ends hopen hevent hrefusal ?_ rfl⟩
      exact fun key w₂ hq => hremovals key w₂ ((asked_upload_iff hcall).2 (.inr (.after hrun hq)))
  · have hcall : run taped (call (.findEvent eventId)) w = (.ok none, w) := by
      rw [run_call, taped, World.answerWith_archive rfl]
      change (Except.ok ((w.archive.activeEvent? eventId).map EventRow.entity), w) = _
      rw [Archive.activeEvent?_eq_none_iff.2 hevent]
      rfl
    exact ⟨_, w, (run_bind_of_ok hcall).trans rfl, .noEvent hevent⟩

/-- A world with an event and a photo of it. -/
def albumWithPhoto : World Tape where
  supply := ⟨List.replicate 4 ⟨.first, .midnight⟩, (List.range 8).map fun n => .ofNat (n + 3)⟩
  archive := { Archive.empty with
    events := [⟨.ofNat 1, "Tour", .first, none, .draft, 0, 0, ⟨.first, .midnight⟩, ⟨.first, .midnight⟩, none⟩]
    photos := [⟨.ofNat 2, .ofNat 1, "c.jpg", "events/1/photos/2.jpg", 1, "image/jpeg", none, none, .pending, none, none,
      ⟨.first, .midnight⟩, none⟩] }
  storage := .bucket ⟨⟨"album", "", "", ""⟩, [("events/1/photos/2.jpg", [0])], [], []⟩

/-- Four files, the third of which has the name of the photo. -/
def fourFiles : List UploadedFile :=
  ["a.jpg", "b.jpg", "c.jpg", "d.jpg"].map fun name => ⟨name, "image/jpeg", [1]⟩

/-- The upload is stopped at the third file: the first two have their photos and the last one was not reached. -/
theorem thirdFile_stopped :
    ∃ r w', run taped (PhotoService.upload (.ofNat 1) fourFiles) albumWithPhoto = (r, w') ∧
      UploadEnds albumWithPhoto (.ofNat 1) fourFiles r w' ∧
      r.mapError Failure.words = .error (Failure.ofRule .duplicateFilename).words ∧
      w'.archive.photos.map PhotoRow.filename = ["c.jpg", "a.jpg", "b.jpg"] := by
  have hopen : albumWithPhoto.IsOpenTo (.ofNat 1) fourFiles :=
    ⟨by decide, trivial, by decide, by decide, by decide +kernel, by decide +kernel, by decide +kernel⟩
  obtain ⟨-, r, w', hrun, hends⟩ := upload_ends (.ofNat 1) fourFiles hopen
    (removalsSucceed_of_faultless _ ⟨_, rfl, rfl⟩)
  have hphotos : (run taped (PhotoService.upload (.ofNat 1) fourFiles) albumWithPhoto).2.archive.photos.map
      PhotoRow.filename = ["c.jpg", "a.jpg", "b.jpg"] := by decide +kernel
  have hresult : (run taped (PhotoService.upload (.ofNat 1) fourFiles) albumWithPhoto).1.mapError Failure.words =
      .error (Failure.ofRule .duplicateFilename).words := by decide +kernel
  rw [hrun] at hphotos hresult
  exact ⟨r, w', hrun, hends, hresult, hphotos⟩

/-- The bytes of a picture of one point, with a block of tags that does not begin as one. -/
def brokenPicture : Bytes :=
  [137, 80, 78, 71, 13, 10, 26, 10, 0, 0, 0, 13, 73, 72, 68, 82, 0, 0, 0, 1, 0, 0, 0, 1, 8, 2, 0, 0, 0, 144, 119, 83, 222,
   0, 0, 0, 1, 101, 88, 73, 102, 77, 221, 200, 111, 46, 0, 0, 0, 12, 73, 68, 65, 84, 120, 156, 99, 96, 100, 98, 6, 0, 0,
   14, 0, 7, 215, 111, 228, 120, 0, 0, 0, 0, 73, 69, 78, 68, 174, 66, 96, 130]

/-- A picture whose tags cannot be read keeps a file from being uploaded, although the file breaks no rule of photos, its name is
free and its object could be stored. -/
theorem brokenPicture_refused :
    let file : UploadedFile := ⟨"a.png", "image/png", brokenPicture⟩
    albumWithPhoto.IsOpenTo (.ofNat 1) [file] ∧ albumWithPhoto.archive.HasActiveEvent (.ofNat 1) ∧
    (∀ i ∈ intakes (.ofNat 1) [file] albumWithPhoto.supply,
      Photo.brokenRule? (i.newPhoto none) = none ∧ (i.stop? albumWithPhoto).isNone = true) ∧
    (run taped (PhotoService.upload (.ofNat 1) [file]) albumWithPhoto).1.mapError Failure.words =
      .error "not a TIFF file (header b'M' not valid)" ∧
    (run taped (PhotoService.upload (.ofNat 1) [file]) albumWithPhoto).2.archive = albumWithPhoto.archive := by
  intro file
  refine ⟨⟨by decide, trivial, by decide, by decide, by decide +kernel, by decide +kernel, by decide +kernel⟩,
    ⟨_, List.mem_cons_self, rfl, rfl⟩, by decide +kernel, by decide +kernel, by decide +kernel⟩

end RaceAlbum
