import Mathlib.Data.List.Forall2
import RaceAlbum.Proofs.Http.Replies
import RaceAlbum.Proofs.Http.Routing
import RaceAlbum.Proofs.Service.Intakes

/-!
# The check of an upload

An upload is taken as a whole or not at all. Every file is judged alone (`UploadLimits.accept_cases`): it is taken as it is, or
one thing is said of it. If nothing is said, all files are taken in their order, and an entity refuses one of them only for a
name of blanks or for having no bytes. If anything is said, all of it is told together, and no row and no object is touched.
-/

namespace RaceAlbum

open Program

/-! ## A file alone -/

/-- The type of a file is one of those that are accepted. -/
def FormFile.HasAcceptedType (f : FormFile) : Prop := ∃ type ∈ acceptedMimeTypes, f.contentType = some type

/-- Whether the type of a file is accepted can be checked. -/
instance (f : FormFile) : Decidable f.HasAcceptedType :=
  decidable_of_iff (∃ type ∈ f.contentType, type ∈ acceptedMimeTypes) <| by
    simp [FormFile.HasAcceptedType, and_comm]

/-- A file that was taken is one of a form: with its name, its type and its bytes. -/
structure UploadedFile.IsOf (u : UploadedFile) (f : FormFile) : Prop where
  filename : u.filename = f.filename
  contentType : f.contentType = some u.contentType
  data : u.data = f.data

/-- What is to become a photo of a file has its name, its type and its length. -/
structure NewPhoto.IsOf (p : NewPhoto) (u : UploadedFile) : Prop where
  filename : p.filename = u.filename
  mimeType : p.mimeType = u.contentType
  fileSize : p.fileSize = u.data.length

/-- What an upload makes of a file is of the file. -/
theorem Intake.newPhoto_isOf (i : Intake) (captured : Option Moment) : (i.newPhoto captured).IsOf i.file := ⟨rfl, rfl, rfl⟩

namespace UploadLimits

variable {l : UploadLimits} {f : FormFile} {fs : List FormFile}

/-- A file keeps to the limits. -/
def Takes (l : UploadLimits) (f : FormFile) : Prop := f.HasAcceptedType ∧ (f.data.length : Int) ≤ l.bytes

/-- Whether a file keeps to the limits can be checked. -/
instance (l : UploadLimits) (f : FormFile) : Decidable (l.Takes f) := inferInstanceAs (Decidable (_ ∧ _))

/-- An upload keeps to the limits: it has not too many files, and each of them keeps to them. -/
def Fits (l : UploadLimits) (fs : List FormFile) : Prop := (fs.length : Int) ≤ l.files ∧ ∀ f ∈ fs, l.Takes f

/-- What is said of a file that does not keep to the limits. Its size does not matter where its type is refused. -/
inductive Complains (l : UploadLimits) (f : FormFile) : String → Prop
  | wrongType : ¬f.HasAcceptedType → Complains l f (wrongType (f.contentType.getD "None"))
  | tooLarge : f.HasAcceptedType → l.bytes < f.data.length → Complains l f (l.tooLarge f.filename)

theorem Complains.not_takes {said : String} (h : l.Complains f said) : ¬l.Takes f := by
  cases h with
  | wrongType htype => exact fun htakes => htype htakes.1
  | tooLarge _ hsize => exact fun htakes => absurd htakes.2 (by omega)

/-- A file that keeps to the limits is taken as it is, and one thing is said of any other. -/
theorem accept_cases (l : UploadLimits) (f : FormFile) :
    (∃ u, l.accept f = .ok u ∧ l.Takes f ∧ u.IsOf f) ∨ ∃ said, l.accept f = .error said ∧ l.Complains f said := by
  unfold accept
  cases htype : f.contentType with
  | none =>
    have hsaid := Complains.wrongType (l := l) (f := f) (by simp [FormFile.HasAcceptedType, htype])
    rw [htype] at hsaid
    exact .inr ⟨_, rfl, hsaid⟩
  | some type =>
    dsimp only
    split
    · rename_i hnot
      have hsaid := Complains.wrongType (l := l) (f := f) (by simpa [FormFile.HasAcceptedType, htype] using hnot)
      rw [htype] at hsaid
      exact .inr ⟨_, rfl, hsaid⟩
    · rename_i hin
      have haccepted : f.HasAcceptedType := ⟨type, by simpa using hin, htype⟩
      split
      · rename_i hsize
        exact .inr ⟨_, rfl, .tooLarge haccepted hsize⟩
      · rename_i hsize
        exact .inl ⟨_, rfl, ⟨haccepted, by omega⟩, ⟨rfl, htype, rfl⟩⟩

/-! ## All files of an upload -/

/-- All that is said of files, one thing of each that does not keep to the limits and in their order. -/
theorem said_of_each (l : UploadLimits) (fs : List FormFile) :
    List.Forall₂ l.Complains (fs.filter fun f => ¬l.Takes f) (fs.filterMap fun f => complaint? (l.accept f)) := by
  induction fs with
  | nil => exact .nil
  | cons f fs ih =>
    rcases l.accept_cases f with ⟨u, hf, htakes, -⟩ | ⟨said, hf, hsaid⟩
    · rw [List.filter_cons_of_neg (by simpa using htakes), List.filterMap_cons_none (by rw [hf]; rfl)]
      exact ih
    · rw [List.filter_cons_of_pos (by simpa using hsaid.not_takes), List.filterMap_cons_some (by rw [hf]; rfl)]
      exact .cons hsaid ih

/-- All files that keep to the limits are taken, in their order. -/
theorem taken_of_all (hall : ∀ f ∈ fs, l.Takes f) :
    List.Forall₂ UploadedFile.IsOf (fs.filterMap fun f => (l.accept f).toOption) fs := by
  induction fs with
  | nil => exact .nil
  | cons f fs ih =>
    rcases l.accept_cases f with ⟨u, hf, -, hu⟩ | ⟨said, -, hsaid⟩
    · rw [List.filterMap_cons_some (by rw [hf]; rfl)]
      exact .cons hu (ih fun g hg => hall g (List.mem_cons_of_mem _ hg))
    · exact absurd (hall f List.mem_cons_self) hsaid.not_takes

/-- Nothing is said of an upload just if it keeps to the limits. -/
theorem complaints_eq_nil_iff : l.complaints fs = [] ↔ l.Fits fs := by
  have hsaid : (fs.filterMap fun f => complaint? (l.accept f)) = [] ↔ ∀ f ∈ fs, l.Takes f := by
    rw [← List.length_eq_zero_iff, ← (l.said_of_each fs).length_eq, List.length_eq_zero_iff, List.filter_eq_nil_iff]
    simp
  have hmany : (if l.files < fs.length then [l.tooMany] else []) = [] ↔ (fs.length : Int) ≤ l.files := by
    split <;> simp <;> omega
  rw [complaints, List.append_eq_nil_iff, hmany, hsaid, Fits]

theorem check_of_fits (h : l.Fits fs) : ∃ us, l.check fs = .ok us ∧ List.Forall₂ UploadedFile.IsOf us fs := by
  refine ⟨_, ?_, taken_of_all h.2⟩
  rw [check, complaints_eq_nil_iff.2 h]

theorem check_of_not_fits (h : ¬l.Fits fs) :
    l.check fs = .error (.refused (.invalid [(Request.uploadName, l.complaints fs)])) := by
  unfold check
  split
  · rename_i hnil
    exact absurd (complaints_eq_nil_iff.1 hnil) h
  · rfl

end UploadLimits

/-! ## Photos of files that were taken -/

/-- A name of blanks, or of nothing. -/
def IsBlankText (s : String) : Prop := ∀ c ∈ s.toList, isBlankOrSeparator c = true

theorem holdsText_eq_false_iff {s : String} : holdsText s = false ↔ IsBlankText s := by
  simp [holdsText, IsBlankText]

section Photos

variable {σ : Type} {h : Handler σ} {p : NewPhoto} {u : UploadedFile}

/-- How the making of a photo of a file ends. -/
inductive PhotoEnds (h : Handler σ) (p : NewPhoto) (u : UploadedFile) (s : σ) : Prop
  | blankName : IsBlankText u.filename →
      run h (Photo.create p) s = (.error (.ofRule .filenameEmpty), s) → PhotoEnds h p u s
  | emptyFile : ¬IsBlankText u.filename → u.data = [] →
      run h (Photo.create p) s = (.error (.ofRule .fileSize), s) → PhotoEnds h p u s
  | made {photo : Photo} {s' : σ} : ¬IsBlankText u.filename → u.data ≠ [] →
      run h (Photo.create p) s = (.ok photo, s') → PhotoEnds h p u s

/-- A photo whose file has an accepted type is made, or is refused for its name or for its size. -/
theorem create_ends (hsupplies : h.Supplies) (htype : u.contentType ∈ acceptedMimeTypes) (hp : p.IsOf u) (s : σ) :
    PhotoEnds h p u s := by
  have hbroken : Photo.brokenRule? p = if holdsText u.filename then (if u.data = [] then some .fileSize else none)
      else some .filenameEmpty := by
    have hsize : p.fileSize ≤ 0 ↔ u.data = [] := by
      rw [hp.fileSize, ← List.length_eq_zero_iff]
      omega
    simp only [Photo.brokenRule?, hp.filename, hp.mimeType, List.contains_iff_mem.2 htype, hsize]
    cases holdsText u.filename <;> simp
  by_cases hname : holdsText u.filename = true
  · have hnot : ¬IsBlankText u.filename := by rw [← holdsText_eq_false_iff, hname]; simp
    by_cases hdata : u.data = []
    · refine .emptyFile hnot hdata ?_
      rw [if_pos hname, if_pos hdata] at hbroken
      rw [Photo.create, hbroken]
      rfl
    · rw [if_pos hname, if_neg hdata] at hbroken
      obtain ⟨id, s₁, hid⟩ := hsupplies.run_takeId s
      obtain ⟨m, s₂, hclock⟩ := hsupplies.run_readClock s₁
      have hmade := (run_bind_of_ok hid (k := fun id => do
        let now ← readClock
        return (⟨id, p.eventId, p.filename, p.storageKey, p.fileSize, p.mimeType, p.width, p.height, .pending, none,
          p.capturedAt, now, none⟩ : Photo))).trans (run_bind_of_ok hclock)
      refine .made hnot hdata (Eq.trans ?_ hmade)
      rw [Photo.create, hbroken]
  · refine .blankName (holdsText_eq_false_iff.1 (by simpa using hname)) ?_
    rw [if_neg hname] at hbroken
    rw [Photo.create, hbroken]
    rfl

end Photos

/-! ## The request -/

/-- A request that uploads files to an event. -/
structure Request.BringsFiles (s : Settings) (r : Request) (text : String) (files : List FormFile) : Prop where
  method : r.method = "POST"
  path : r.path = s.apiRoot ++ ("/events/" ++ text ++ "/photos")
  part : text.toList ≠ [] ∧ '/' ∉ text.toList
  form : ∃ parts, r.formParts = .ok parts ∧ Request.uploads parts = .ok files

variable {σ : Type} {supply : Handler σ} {app : Application} {r : Request}

/-- A failure of a route that is foreseen and asked for nothing is told, and rows and objects stay as they are. -/
theorem respond_of_failed (hsupply : supply.Supplies) {f : Failure} {report : ErrorReport}
    (hoptions : r.method ≠ "OPTIONS") (hhead : r.method ≠ "HEAD") (hroute : app.route r = .failed f)
    (hreport : Application.reportOf? f = some report) (hfinite : report.details.isFinite = true) (w : World σ) :
    ∃ requestId now w', run (World.answerWith supply) (app.respond r) w =
      (.ok (app.replied r requestId now (.error report)), w') ∧ World.SameStores w w' := by
  have hsupplies := World.answerWith_supplies hsupply
  obtain ⟨requestId, w₁, hid⟩ := Application.requestId_succeeds hsupplies r w
  obtain ⟨m, w₂, hclock⟩ := hsupplies.run_readClock w₁
  have hfailed : run (World.answerWith supply) (app.route r) w₁ = (.error f, w₁) := by
    rw [hroute]
    rfl
  have hforeseen : Application.foreseen? (.error f) = some (.error report) := by
    rw [Application.foreseen?, hreport]
    rfl
  exact ⟨requestId, _, w₂,
    Application.respond_of_reply hid hoptions hhead hfailed hforeseen (.report hfinite) hclock,
    ((Application.requestId_asksSupply r).noWrite.run_sameStores hid).trans
      (readClock_asksSupply.noWrite.run_sameStores hclock)⟩

/-- What is said of files that do not keep to the limits is the end of their upload, unless the identifier of the event is
malformed, which is told then. -/
theorem uploadPhotos_refused {s : Settings} (text : String) {files : List FormFile} {fields : FieldMessages}
    (hform : ∃ parts, r.formParts = .ok parts ∧ Request.uploads parts = .ok files)
    (hcheck : s.uploads.check files = .error (.refused (.invalid fields))) :
    ∃ f told, Route.uploadPhotos s r [(Route.eventPart, text)] = .failed f ∧
      Application.reportOf? f = some (.ofRefusal (.invalid told)) ∧
      ((∃ id, Uuid.ofText text = .ok id) → told = fields) := by
  obtain ⟨parts, hparts, hfiles⟩ := hform
  cases hid : Uuid.ofText text with
  | ok id =>
    have hread : Route.eventId [(Route.eventPart, text)] = .ok id := by
      simp [Route.eventId, Request.pathId, Reader.uuid, hid, Checked.under]
    refine ⟨.refused (.invalid fields), fields, ?_, rfl, fun _ => rfl⟩
    rw [Route.uploadPhotos, Route.readingForm, hparts, hread]
    dsimp only
    rw [hfiles]
    exact (Route.reading_ok rfl _).trans (by rw [hcheck]; rfl)
  | error fault =>
    let problems : List Problem := [⟨[.member "path", .member Route.eventPart], .identifierUnreadable fault⟩]
    have hread : Route.eventId [(Route.eventPart, text)] = .problems problems := by
      simp [problems, Route.eventId, Request.pathId, Reader.uuid, hid, Checked.under, Checked.complain, Problem.under]
    refine ⟨.malformed .request problems, _, ?_, rfl, ?_⟩
    · rw [Route.uploadPhotos, Route.readingForm, hparts, hread]
      dsimp only
      rw [hfiles]
      rfl
    · rintro ⟨id, h⟩
      cases h

/-- An upload is taken as a whole or not at all, whatever its files and the limits are. If it keeps to the limits, all its files
are taken in their order, and of what is made of them only a name of blanks or a file without bytes is refused. If it does not,
it is refused with one message for too many files and one for each file that does not keep to them, in their order; a request
with such files is told so, unless it is told that the identifier of its event is malformed, and touches no row and no object. -/
theorem upload_checked (hsupply : supply.Supplies) (l : UploadLimits) (files : List FormFile) :
    (l.Fits files → ∃ us, l.check files = .ok us ∧ List.Forall₂ UploadedFile.IsOf us files ∧
      ∀ u ∈ us, ∀ p : NewPhoto, p.IsOf u → ∀ s, PhotoEnds supply p u s) ∧
    (¬l.Fits files → ∃ messages said,
      messages = (if l.files < files.length then [l.tooMany] else []) ++ said ∧
      List.Forall₂ l.Complains (files.filter fun f => ¬l.Takes f) said ∧
      l.check files = .error (.refused (.invalid [(Request.uploadName, messages)])) ∧
      ∀ (app : Application) (r : Request) (text : String) (w : World σ), app.settings.uploads = l →
        '{' ∉ app.settings.apiRoot.toList → r.BringsFiles app.settings text files →
        ∃ requestId now told w', run (World.answerWith supply) (app.respond r) w =
            (.ok (app.replied r requestId now (.error (.ofRefusal (.invalid told)))), w') ∧
          World.SameStores w w' ∧
          ((∃ id, Uuid.ofText text = .ok id) → told = [(Request.uploadName, messages)])) := by
  constructor
  · intro hfits
    obtain ⟨us, hcheck, hfiles⟩ := UploadLimits.check_of_fits hfits
    refine ⟨us, hcheck, hfiles, fun u hu p hp s => create_ends hsupply ?_ hp s⟩
    obtain ⟨f, hf, huf⟩ : ∃ f ∈ files, u.IsOf f := by
      obtain ⟨i, hi, rfl⟩ := List.getElem_of_mem hu
      have hi' : i < files.length := hfiles.length_eq ▸ hi
      exact ⟨_, List.getElem_mem hi', hfiles.get hi hi'⟩
    obtain ⟨type, htype, hsome⟩ := (hfits.2 f hf).1
    rwa [← Option.some.inj (hsome.symm.trans huf.contentType)]
  · intro hnot
    refine ⟨l.complaints files, _, rfl, l.said_of_each files, UploadLimits.check_of_not_fits hnot, ?_⟩
    intro app r text w hlimits hroot hbrings
    have hcheck := UploadLimits.check_of_not_fits hnot
    rw [← hlimits] at hcheck
    obtain ⟨f, told, hserved, hreport, htold⟩ := uploadPhotos_refused text hbrings.form hcheck
    have hroute := Application.route_uploadPhotos hroot hbrings.part.1 hbrings.part.2 hbrings.method hbrings.path
    obtain ⟨requestId, now, w', hrun, hsame⟩ := respond_of_failed hsupply (by simp [hbrings.method])
      (by simp [hbrings.method]) (hroute.trans hserved) hreport rfl w
    exact ⟨requestId, now, told, w', hrun, hsame, by rwa [hlimits] at htold⟩

/-- Settings with small limits. -/
def smallLimits : Settings := { Settings.default with uploads := ⟨2, 3⟩ }

/-- Three files: a type that is refused, too many bytes, and none at all. -/
def mixedFiles : List FormFile :=
  [⟨"a.gif", some "image/gif", [1, 2, 3, 4]⟩, ⟨"b.jpg", some "image/jpeg", [1, 2, 3, 4]⟩, ⟨"c.png", some "image/png", []⟩]

/-- A request that uploads the three files to the first event. -/
def mixedUpload : Request where
  method := "POST"
  path := "/api/v1/events/00000000-0000-0000-0000-000000000001/photos"
  query := []
  headers := [("Content-Type", Multipart.typeOf "mark")]
  body := Multipart.write "mark" (mixedFiles.map (.file Request.uploadName))

theorem mixedUpload_bringsFiles :
    mixedUpload.BringsFiles smallLimits "00000000-0000-0000-0000-000000000001" mixedFiles where
  method := rfl
  path := by decide +kernel
  part := by decide +kernel
  form := by
    have hread : (mixedUpload.formParts.toOption.map Request.uploads).map (·.gives mixedFiles) = some true := by
      decide +kernel
    cases hparts : mixedUpload.formParts with
    | error fault =>
      rw [hparts] at hread
      cases hread
    | ok parts =>
      rw [hparts] at hread
      exact ⟨parts, rfl, Checked.eq_ok_of_gives (Option.some.inj hread)⟩

/-- The three files are refused with three messages, and two of them with names of blanks or without bytes are taken. -/
theorem mixedUpload_refused :
    (∃ requestId now w', run World.answer (Application.respond ⟨smallLimits, []⟩ mixedUpload) .empty =
      (.ok (Application.replied ⟨smallLimits, []⟩ mixedUpload requestId now (.error (.ofRefusal (.invalid [("photos",
        ["At most 2 files can be uploaded at once", "File type image/gif is not allowed. Accepted: JPEG, PNG, WebP",
          "File b.jpg exceeds the 3 byte limit"])])))), w') ∧ World.SameStores .empty w') ∧
    ∃ us, UploadLimits.check ⟨2, 3⟩ [⟨" ", some "image/png", [1]⟩, ⟨"c.png", some "image/png", []⟩] = .ok us ∧
      ∀ u ∈ us, ∀ (m : Moment) (lot : Lot), lot.file = u → PhotoEnds Supply.answer (Intake.newPhoto ⟨lot, m⟩ none) u
        World.empty.supply := by
  constructor
  · obtain ⟨messages, said, -, -, hcheck, hanswered⟩ :=
      (upload_checked Supply.answer_supplies ⟨2, 3⟩ mixedFiles).2 (by unfold UploadLimits.Fits; decide +kernel)
    obtain ⟨requestId, now, told, w', hrun, hsame, htold⟩ := hanswered ⟨smallLimits, []⟩ mixedUpload _ .empty rfl
      (by decide +kernel) mixedUpload_bringsFiles
    have hsaid : messages = ["At most 2 files can be uploaded at once",
        "File type image/gif is not allowed. Accepted: JPEG, PNG, WebP", "File b.jpg exceeds the 3 byte limit"] := by
      have hnot : ¬UploadLimits.Fits ⟨2, 3⟩ mixedFiles := by unfold UploadLimits.Fits; decide +kernel
      have hcomplaints := UploadLimits.check_of_not_fits hnot
      rw [hcomplaints] at hcheck
      cases hcheck
      decide +kernel
    rw [htold ⟨.ofNat 1, by decide +kernel⟩, hsaid] at hrun
    exact ⟨requestId, now, w', hrun, hsame⟩
  · obtain ⟨us, hcheck, -, hends⟩ := (upload_checked Supply.answer_supplies ⟨2, 3⟩
      [⟨" ", some "image/png", [1]⟩, ⟨"c.png", some "image/png", []⟩]).1 (by unfold UploadLimits.Fits; decide +kernel)
    exact ⟨us, hcheck, fun u hu m lot hlot => hends u hu _ (hlot ▸ Intake.newPhoto_isOf ⟨lot, m⟩ none) _⟩

end RaceAlbum
