import RaceAlbum.Proofs.Service.Careful
import RaceAlbum.Proofs.World.Takes

/-!
# What is made of the files of an upload

An upload looks at all files before it stores the first. `intakes` are the files with all that is drawn for them. The first of
them that is refused ends the upload; if none is, each becomes a photo that is made of nothing else than its intake
(`prepareAll_run`).
-/

namespace RaceAlbum

open Program

/-- A lot and the moment at which its photo is made. -/
structure Intake extends Lot where
  uploadedAt : Moment

/-- The intakes of an upload: for each file in turn, the next two identifiers and the next reading of the clock. -/
def intakes (eventId : Uuid) : List UploadedFile → Tape → List Intake
  | file :: files, ⟨m :: ms, mark :: id :: ids⟩ => ⟨⟨eventId, file, mark, id⟩, m⟩ :: intakes eventId files ⟨ms, ids⟩
  | _, _ => []

namespace Intake

/-- What is to become a photo, if its picture was taken at a moment. -/
def newPhoto (i : Intake) (captured : Option Moment) : NewPhoto where
  eventId := i.eventId
  filename := i.file.filename
  storageKey := i.key
  fileSize := i.file.data.length
  mimeType := i.file.contentType
  width := none
  height := none
  capturedAt := captured.map .ofUtc

/-- Why a file is refused before anything is stored: the form of its picture is broken, or it breaks a rule of photos. -/
def refusal? (i : Intake) : Option Failure :=
  match Exif.capturedAt? i.file.data with
  | .error f => some f
  | .ok captured => (Photo.brokenRule? (i.newPhoto captured)).map .ofRule

/-- The moment at which the picture of the file was taken, as far as it tells. -/
def capturedAt (i : Intake) : Option Moment := (Exif.capturedAt? i.file.data).toOption.join

/-- The row of the photo: pending, with the name, the type and the length of its file and with the key of its object. -/
def row (i : Intake) : PhotoRow where
  id := i.id
  eventId := i.eventId
  filename := i.file.filename
  storageKey := i.key
  fileSize := i.file.data.length
  mimeType := i.file.contentType
  width := none
  height := none
  status := .pending
  unclassifiedReason := none
  capturedAt := i.capturedAt
  uploadedAt := i.uploadedAt
  processedAt := none

/-- The photo that is made of an intake. -/
def photo (i : Intake) : Photo := i.row.entity

/-- The row of the photo is what it was made for. -/
theorem ofEntity_photo (i : Intake) : PhotoRow.ofEntity i.photo = i.row := by
  simp [photo, row, PhotoRow.entity, PhotoRow.ofEntity, Stamp.ofUtc, Function.comp_def]

/-- The file with its photo, as they are stored. -/
def prepared (i : Intake) : UploadedFile × Photo := (i.file, i.photo)

end Intake

/-- A tape that holds enough for files gives what is drawn for the first one and holds enough for the others. -/
theorem Tape.Holds.forFile {t : Tape} {n : Nat} (ht : t.Holds (n + 1) (2 * (n + 1))) :
    ∃ m ms mark id ids, t = ⟨m :: ms, mark :: id :: ids⟩ ∧ Tape.Holds ⟨ms, ids⟩ n (2 * n) := by
  obtain ⟨m, ms, htape, ht⟩ := ht.readClock
  obtain ⟨mark, rest, hmark, ht⟩ := ht.takeId
  obtain ⟨id, ids, hid, ht⟩ := ht.takeId
  have hids : t.ids = mark :: rest := congrArg Tape.ids hmark
  have hrest : rest = id :: ids := congrArg Tape.ids hid
  exact ⟨m, ms, mark, id, ids, htape.trans (by rw [hids, hrest]), ht⟩

/-- The identifiers of intakes are taken from those that are given, in their order, and so are the marks of their keys. -/
theorem intakes_drawn (eventId : Uuid) (files : List UploadedFile) (t : Tape) :
    ((intakes eventId files t).map fun i => i.mark).Sublist t.ids ∧
      ((intakes eventId files t).map fun i => i.id).Sublist t.ids := by
  induction files generalizing t with
  | nil => exact ⟨List.nil_sublist _, List.nil_sublist _⟩
  | cons file files ih =>
    unfold intakes
    split
    · rename_i m ms mark id ids heq
      obtain ⟨hmarks, hids⟩ := ih ⟨ms, ids⟩
      cases heq
      exact ⟨(hmarks.cons id).cons_cons mark, (hids.cons_cons id).cons mark⟩
    · exact ⟨List.nil_sublist _, List.nil_sublist _⟩

/-- Intakes are of the event and of the files that they are made for. -/
theorem mem_intakes {eventId : Uuid} {files : List UploadedFile} {t : Tape} {i : Intake}
    (h : i ∈ intakes eventId files t) : i.eventId = eventId ∧ i.file ∈ files := by
  induction files generalizing t with
  | nil => cases h
  | cons file files ih =>
    unfold intakes at h
    split at h
    · rename_i m ms mark id ids heq
      cases heq
      rcases List.mem_cons.1 h with rfl | h
      · exact ⟨rfl, List.mem_cons_self⟩
      · exact (ih h).imp_right (List.mem_cons_of_mem _)
    · cases h

/-- A tape that holds enough has an intake for each file. -/
theorem intakes_files (eventId : Uuid) {files : List UploadedFile} {t : Tape}
    (ht : t.Holds files.length (2 * files.length)) : (intakes eventId files t).map (fun i => i.file) = files := by
  induction files generalizing t with
  | nil => rfl
  | cons file files ih =>
    obtain ⟨m, ms, mark, id, ids, rfl, hrest⟩ := Tape.Holds.forFile ht
    rw [intakes, List.map_cons, ih hrest]

/-- A photo is made of an intake whose picture could be read, or its rule is told. -/
theorem create_run (i : Intake) {captured : Option Moment} (hcaptured : Exif.capturedAt? i.file.data = .ok captured)
    (ms : List Moment) (ids : List Uuid) (a : Archive) (s : Storage) :
    run taped (Photo.create (i.newPhoto captured)) ⟨⟨i.uploadedAt :: ms, i.id :: ids⟩, a, s⟩ =
      match i.refusal? with
      | some f => (.error f, ⟨⟨i.uploadedAt :: ms, i.id :: ids⟩, a, s⟩)
      | none => (.ok i.photo, ⟨⟨ms, ids⟩, a, s⟩) := by
  have hrefusal : i.refusal? = (Photo.brokenRule? (i.newPhoto captured)).map .ofRule := by
    simp only [Intake.refusal?, hcaptured]
  unfold Photo.create
  rw [hrefusal]
  cases Photo.brokenRule? (i.newPhoto captured) with
  | some r => rfl
  | none =>
    simp only [Intake.photo, Intake.row, PhotoRow.entity, Intake.capturedAt, hcaptured]
    rfl

/-- Preparing a file draws for it and makes its photo, or refuses it. -/
theorem prepare_run (eventId : Uuid) (file : UploadedFile) (m : Moment) (ms : List Moment) (mark id : Uuid)
    (ids : List Uuid) (a : Archive) (s : Storage) :
    let i : Intake := ⟨⟨eventId, file, mark, id⟩, m⟩
    run taped (PhotoService.prepare eventId file) ⟨⟨m :: ms, mark :: id :: ids⟩, a, s⟩ =
      match i.refusal? with
      | some f => (.error f, ⟨⟨m :: ms, id :: ids⟩, a, s⟩)
      | none => (.ok i.prepared, ⟨⟨ms, ids⟩, a, s⟩) := by
  intro i
  have hmark : run taped takeId ⟨⟨m :: ms, mark :: id :: ids⟩, a, s⟩ = (.ok mark, ⟨⟨m :: ms, id :: ids⟩, a, s⟩) := rfl
  unfold PhotoService.prepare
  rw [run_bind_of_ok hmark]
  cases hcaptured : Exif.capturedAt? file.data with
  | error f =>
    have hrefused : i.refusal? = some f := by simp only [Intake.refusal?, i, hcaptured]
    rw [hrefused]
    rfl
  | ok captured =>
    have hread : run taped (ofExcept (.ok captured)) ⟨⟨m :: ms, id :: ids⟩, a, s⟩ =
        (.ok captured, ⟨⟨m :: ms, id :: ids⟩, a, s⟩) := rfl
    have hcreate := create_run i hcaptured ms ids a s
    rw [run_bind_of_ok hread]
    cases hrefused : i.refusal? with
    | some f =>
      rw [hrefused] at hcreate
      exact run_bind_of_error hcreate
    | none =>
      rw [hrefused] at hcreate
      exact (run_bind_of_ok hcreate).trans rfl

/-- Preparing files comes to their photos, or to what the first file that is refused is refused for. -/
theorem prepareAll_run (eventId : Uuid) {files : List UploadedFile} {w : World Tape}
    (hw : w.supply.Holds files.length (2 * files.length)) :
    (run taped (forAll (PhotoService.prepare eventId) files) w).1 =
      match (intakes eventId files w.supply).findSome? Intake.refusal? with
      | some f => .error f
      | none => .ok ((intakes eventId files w.supply).map Intake.prepared) := by
  induction files generalizing w with
  | nil => rfl
  | cons file files ih =>
    obtain ⟨t, a, s⟩ := w
    obtain ⟨m, ms, mark, id, ids, ht, hrest⟩ := Tape.Holds.forFile hw
    cases ht
    have hfile := prepare_run eventId file m ms mark id ids a s
    have hall : (run taped (forAll (PhotoService.prepare eventId) files) ⟨⟨ms, ids⟩, a, s⟩).1 = _ := ih hrest
    rw [intakes, List.findSome?_cons]
    cases hrefused : Intake.refusal? ⟨⟨eventId, file, mark, id⟩, m⟩ with
    | some f =>
      simp only [hrefused] at hfile
      have hend : run taped (forAll (PhotoService.prepare eventId) (file :: files)) _ = _ := run_bind_of_error hfile
      rw [hend]
    | none =>
      simp only [hrefused] at hfile
      rw [run_forAll_cons hfile, hall]
      cases (intakes eventId files ⟨ms, ids⟩).findSome? Intake.refusal? with
      | some f => rfl
      | none => rfl

end RaceAlbum
