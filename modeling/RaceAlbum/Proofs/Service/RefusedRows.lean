import RaceAlbum.Proofs.Service.Uploading

/-!
# Uploads whose row is refused

Where the archive refuses the row of a photo whose object was stored, the object is removed again and the upload ends. The
caller is told what the archive refused, unless the removal fails in a way that is no refusal of the store; then it is told
that instead (`upload_run_of_refusedRow`). A folder never fails so for a key under which it has stored something, and a bucket
does where its next call goes wrong in an unforeseen way (`refused_row_is_told_unless_masked`).
-/

namespace RaceAlbum

open Program

variable {σ : Type} {h : Handler σ} {s s₁ s₂ : σ} {photo : Photo} {f : Failure}

/-! ## The removal that follows a refusal -/

/-- The failure with which a removal is given up, if it is one that is not passed over. -/
def unforeseen? : Except Failure Unit → Option Failure
  | .ok () | .error (.refused _) => none
  | .error g => some g

/-- What comes of discarding an object: the removal is passed over, or it is given up. -/
theorem discard_answer_run (key : String) (s : σ) : run h (PhotoService.discard key) s =
    ((unforeseen? (h (.removeObject key) s).1).elim (.ok ()) .error, (h (.removeObject key) s).2) := by
  have hremove := run_call (h := h) (.removeObject key) s
  refine (run_attempt_bind_of hremove).trans ?_
  rcases (h (.removeObject key) s).1 with f | _
  · cases f <;> rfl
  · rfl

/-- A program that discards an object and then fails tells the failure, or the one for which the removal was given up. -/
theorem discard_then_fail_run {α : Type} (key : String) (f : Failure) (s : σ) :
    run h (PhotoService.discard key >>= fun _ => (.failed f : Program α)) s =
      (.error ((unforeseen? (h (.removeObject key) s).1).getD f), (h (.removeObject key) s).2) := by
  have hdiscard := discard_answer_run (h := h) key s
  cases hmask : unforeseen? (h (.removeObject key) s).1 with
  | none =>
    rw [hmask] at hdiscard
    exact (run_bind_of_ok hdiscard).trans rfl
  | some g =>
    rw [hmask] at hdiscard
    exact run_bind_of_error hdiscard

/-! ## One file -/

/-- The storing of a file asks for the row of its photo where its object was put, and for no other row. -/
theorem asked_store_iff {file : UploadedFile} {p : Photo} :
    Asked h (PhotoService.store (file, p)) s (.savePhoto photo) s₁ ↔
      p = photo ∧ h (.putObject p.storageKey file.contentType file.data) s = (.ok (), s₁) := by
  constructor
  · intro hq
    rcases Asked.bind_iff.1 hq with hq | ⟨_, s₂, hput, hq⟩
    · cases (Asked.call_iff.1 hq).1
    rcases Asked.bind_iff.1 hq with hq | ⟨r, s₃, -, hq⟩
    · obtain ⟨hport, rfl⟩ := Asked.call_iff.1 (Asked.attempt_iff.1 hq)
      cases hport
      rw [run_call] at hput
      exact ⟨rfl, hput⟩
    · -- after the row is answered for, at most the store is asked
      cases r with
      | ok saved => cases hq
      | error g =>
        rcases Asked.bind_iff.1 hq with hq | ⟨_, s₄, -, hq⟩
        · cases (discard_asks p.storageKey).asked hq
        · cases hq
  · rintro ⟨rfl, hput⟩
    have hput := (run_call (h := h) (.putObject p.storageKey file.contentType file.data) s).trans hput
    exact .after hput (Asked.bind_iff.2 (.inl (Asked.attempt_iff.2 (Asked.call_iff.2 ⟨rfl, rfl⟩))))

/-- A file whose row is refused ends with the refusal, or with the failure for which the removal of its object was given up. -/
theorem store_run_of_refusedRow {file : UploadedFile}
    (hput : h (.putObject photo.storageKey file.contentType file.data) s = (.ok (), s₁))
    (hrefused : h (.savePhoto photo) s₁ = (.error f, s₂)) : run h (PhotoService.store (file, photo)) s =
      (.error ((unforeseen? (h (.removeObject photo.storageKey) s₂).1).getD f), (h (.removeObject photo.storageKey) s₂).2) := by
  have hput := (run_call (h := h) (.putObject photo.storageKey file.contentType file.data) s).trans hput
  have hrefused := (run_call (h := h) (.savePhoto photo) s₁).trans hrefused
  exact (run_bind_of_ok hput).trans ((run_attempt_bind_of hrefused).trans (discard_then_fail_run photo.storageKey f s₂))

/-! ## The whole upload -/

/-- An upload that asks for a row has put its object just before. If the row is refused, the upload goes no further: it ends
with the refusal, or with the failure for which the removal of the object was given up. -/
theorem upload_run_of_refusedRow {eventId : Uuid} {files : List UploadedFile}
    (hq : Asked h (PhotoService.upload eventId files) s (.savePhoto photo) s₁)
    (hrefused : h (.savePhoto photo) s₁ = (.error f, s₂)) :
    (∃ s₀ contentType data, h (.putObject photo.storageKey contentType data) s₀ = (.ok (), s₁)) ∧
    run h (PhotoService.upload eventId files) s =
      (.error ((unforeseen? (h (.removeObject photo.storageKey) s₂).1).getD f), (h (.removeObject photo.storageKey) s₂).2) := by
  rcases Asked.bind_iff.1 hq with hq | ⟨e, sₑ, hevent, hq⟩
  · cases (Asked.call_iff.1 hq).1
  rcases Asked.bind_iff.1 hq with hq | ⟨_, sₑ', hfound, hq⟩
  · cases (Asks.found (P := fun p => p.addressee = .supply) EventService.entity eventId e).asked hq
  rcases Asked.bind_iff.1 hq with hq | ⟨prepared, sₚ, hprepared, hq⟩
  · cases (Asks.forAll (prepare_asksSupply eventId) files).asked hq
  obtain ⟨before, ⟨file, p⟩, after, ids, s₀, rfl, hbefore, hq⟩ := Asked.of_forAll hq
  obtain ⟨rfl, hput⟩ := asked_store_iff.1 hq
  refine ⟨⟨s₀, file.contentType, file.data, hput⟩, ?_⟩
  exact (run_bind_of_ok hevent).trans ((run_bind_of_ok hfound).trans ((run_bind_of_ok hprepared).trans
    (run_forAll_of_error hbefore (store_run_of_refusedRow hput hrefused))))

/-- An upload asks for the row of each file that it comes to and whose object can be put: right after that, with the rows of the
files before. -/
theorem asked_upload_of_put {w : World Tape} {eventId : Uuid} {files : List UploadedFile} {before after : List Intake}
    {i : Intake} (hopen : w.IsOpenTo eventId files) (hevent : w.archive.HasActiveEvent eventId)
    (hrefusal : (intakes eventId files w.supply).findSome? Intake.refusal? = none)
    (hsplit : intakes eventId files w.supply = before ++ i :: after) (hpasses : w.Passes before)
    (hput : ((w.withIntakes before).storage.putIntake i).1 = .ok ()) :
    ∃ t, Asked taped (PhotoService.upload eventId files) w (.savePhoto i.photo)
      ⟨t, (w.withIntakes before).archive, ((w.withIntakes before).storage.putIntake i).2⟩ := by
  obtain ⟨e, hcall, -⟩ := upload_run hevent files
  have hasks : AsksSupply (forAll (PhotoService.prepare eventId) files) := .forAll (prepare_asksSupply eventId) files
  have hprepared := prepareAll_run eventId hopen.supply
  rw [hrefusal, hsplit, List.map_append, List.map_cons] at hprepared
  rcases hrun : run taped (forAll (PhotoService.prepare eventId) files) w with ⟨r, t, a, s⟩
  obtain ⟨rfl, rfl⟩ : a = w.archive ∧ s = w.storage := hasks.noWrite.run_sameStores hrun
  rw [hrun] at hprepared
  obtain rfl : r = .ok _ := hprepared
  have hroom := hopen.hasRoomFor hevent
  rw [hsplit] at hroom
  have hbefore := storeAll_run (w := { w with supply := t }) hroom.take (World.passes_supply_iff.2 hpasses)
  rw [World.withIntakes_supply] at hbefore
  have hstored := putIntake_run { w.withIntakes before with supply := t } i
  rw [run_call] at hstored
  refine ⟨t, (asked_upload_iff hcall).2 (.inr (.after hrun (.forAll hbefore (asked_store_iff.2 ⟨rfl, ?_⟩))))⟩
  exact hstored.trans (Prod.ext hput rfl)

/-! ## The stores -/

/-- The failure for which the next removal is given up, if it is: that of a bucket whose next call goes wrong in a way that is
neither an answer of the service nor the lack of one. -/
def Storage.masking? : Storage → Option Failure
  | .folder _ => none
  | .bucket b =>
    match List.lookup (b.calls.length + 1) b.faults with
    | some (.other message) => some (.unexpected message)
    | _ => none

namespace FolderStore

variable {s : FolderStore} {disk : Disk} {key : String}

/-- A key under which something was stored holds no zero byte. -/
theorem noZeroByte_of_put {data : Bytes} (h : (s.put disk key data).1 = .ok ()) : '\x00' ∉ key.toList := by
  intro hzero
  have hpath : s.pathOf key = .error (.misfit .zeroByte) := if_pos (List.contains_iff_mem.2 hzero)
  rw [put, hpath] at h
  cases h

/-- What is under a key without a zero byte is removed, or that is refused. -/
theorem unforeseen?_remove (hkey : '\x00' ∉ key.toList) : unforeseen? (s.remove disk key).1 = none := by
  unfold remove
  split
  · rename_i f hpath
    rw [pathOf, if_neg (mt List.contains_iff_mem.1 hkey)] at hpath
    split at hpath
    · cases hpath
    · cases hpath
      rfl
  · split <;> rfl

end FolderStore

/-- A bucket gives a removal up where the call for it goes wrong in an unforeseen way. -/
theorem BucketStore.unforeseen?_remove (b : BucketStore) (key : String) :
    unforeseen? (b.remove key).1 = (Storage.bucket b).masking? := by
  have hlength : (b.calls ++ [BucketCall.delete key]).length = b.calls.length + 1 := List.length_append
  unfold remove call Storage.masking?
  dsimp only
  rw [hlength]
  rcases List.lookup (b.calls.length + 1) b.faults with _ | fault
  · rfl
  · cases fault <;> rfl

/-- What masks a refusal is known before the removal, where something was stored under its key. -/
theorem Storage.unforeseen?_remove {s : Storage} {key contentType : String} {data : Bytes}
    (hput : (s.put key contentType data).1 = .ok ()) :
    unforeseen? ((s.put key contentType data).2.remove key).1 = (s.put key contentType data).2.masking? := by
  cases s with
  | folder s => exact FolderStore.unforeseen?_remove (FolderStore.noZeroByte_of_put hput)
  | bucket b => exact BucketStore.unforeseen?_remove _ key

/-- Where the archive refuses the row of a photo whose object was stored, the upload goes no further. Its caller is told what the
archive refused, whatever comes of the removal of the object, with one exception: where the next call to a bucket goes wrong
in an unforeseen way, the caller is told that instead. -/
theorem refused_row_is_told_unless_masked (supply : Handler σ) {w w₁ : World σ} {eventId : Uuid} {files : List UploadedFile}
    (hasked : Asked (World.answerWith supply) (PhotoService.upload eventId files) w (.savePhoto photo) w₁)
    (hrefused : (World.answerWith supply (.savePhoto photo) w₁).1 = .error f) :
    (run (World.answerWith supply) (PhotoService.upload eventId files) w).1 = .error (w₁.storage.masking?.getD f) := by
  obtain ⟨⟨w₀, contentType, data, hput⟩, hrun⟩ := upload_run_of_refusedRow hasked (Prod.ext hrefused rfl)
  rw [World.answerWith_storage rfl] at hput
  obtain ⟨hok, hstored⟩ := Prod.mk.inj hput
  have hstorage : (World.answerWith supply (.savePhoto photo) w₁).2.storage =
      (w₀.storage.put photo.storageKey contentType data).2 := by
    rw [World.answerWith_archive rfl, ← hstored]
    rfl
  have hmask : unforeseen? (World.answerWith supply (.removeObject photo.storageKey)
      (World.answerWith supply (.savePhoto photo) w₁).2).1 = w₁.storage.masking? := by
    rw [World.answerWith_storage rfl, hstorage, ← hstored]
    exact Storage.unforeseen?_remove hok
  rw [hrun, hmask]

/-- A world with a photo, whose bucket fails at the second call. -/
def albumFailing (fault : CallFault) : World Tape :=
  { albumWithPhoto with storage := .bucket ⟨⟨"album", "", "", ""⟩, [("events/1/photos/2.jpg", [0])], [], [(2, fault)]⟩ }

/-- A file with the name of the photo, as it is taken in. -/
def sameName : Intake := ⟨⟨.ofNat 1, ⟨"c.jpg", "image/jpeg", [1]⟩, .ofNat 3, .ofNat 4⟩, ⟨.first, .midnight⟩⟩

/-- The object of the file is put, its row is refused, and the bucket fails after that. -/
theorem sameName_asked (fault : CallFault) : ∃ w₁,
    Asked taped (PhotoService.upload (.ofNat 1) [sameName.file]) (albumFailing fault) (.savePhoto sameName.photo) w₁ ∧
      (taped (.savePhoto sameName.photo) w₁).1 = .error (.ofRule .duplicateFilename) ∧
      w₁.storage.masking? = match fault with
        | .other message => some (.unexpected message)
        | _ => none := by
  have hfaultless : albumWithPhoto.IsOpenTo (.ofNat 1) [sameName.file] :=
    ⟨by decide, trivial, by decide, by decide, by decide +kernel, by decide +kernel, by decide +kernel⟩
  have hopen : (albumFailing fault).IsOpenTo (.ofNat 1) [sameName.file] := { hfaultless with }
  have hevent : (albumFailing fault).archive.HasActiveEvent (.ofNat 1) := ⟨_, List.mem_cons_self, rfl, rfl⟩
  have hrefusal : sameName.refusal? = none := Option.isNone_iff_eq_none.1 (by decide +kernel)
  have hsplit : intakes (.ofNat 1) [sameName.file] (albumFailing fault).supply = [] ++ sameName :: [] := rfl
  obtain ⟨t, hasked⟩ := asked_upload_of_put hopen hevent (by rw [hsplit]; simp [hrefusal]) hsplit (.nil _) rfl
  refine ⟨_, hasked, ?_, ?_⟩
  · have hroom : albumWithPhoto.archive.HasRoomFor [sameName] := hopen.hasRoomFor hevent
    have htaken : sameName.isTaken albumWithPhoto.archive = true := by decide +kernel
    have hsaved := savePhoto_run (w := ⟨t, albumWithPhoto.archive, ((albumFailing fault).storage.putIntake sameName).2⟩) hroom
    rw [run_call, if_pos htaken] at hsaved
    exact congrArg Prod.fst hsaved
  · cases fault <;> rfl

/-- Where the bucket answers the removal with an error, the name is reported. -/
theorem sameName_told :
    (run taped (PhotoService.upload (.ofNat 1) [sameName.file]) (albumFailing (.answered "AccessDenied" "no"))).1 =
      .error (.ofRule .duplicateFilename) := by
  obtain ⟨w₁, hasked, hrefused, hmask⟩ := sameName_asked (.answered "AccessDenied" "no")
  have htold := refused_row_is_told_unless_masked Tape.answer hasked hrefused
  rw [hmask] at htold
  exact htold

/-- The refusal of the archive is not what every upload tells: where the removal goes wrong in a way that no one foresaw, that
is told instead of the duplicate. -/
theorem sameName_masked : ¬∀ (w w₁ : World Tape) (eventId : Uuid) (files : List UploadedFile) (photo : Photo) (f : Failure),
    Asked taped (PhotoService.upload eventId files) w (.savePhoto photo) w₁ → (taped (.savePhoto photo) w₁).1 = .error f →
      (run taped (PhotoService.upload eventId files) w).1 = .error f := by
  intro hall
  obtain ⟨w₁, hasked, hrefused, -⟩ := sameName_asked (.other "boom")
  have htold := hall _ _ _ _ _ _ hasked hrefused
  have hwords : (run taped (PhotoService.upload (.ofNat 1) [sameName.file]) (albumFailing (.other "boom"))).1.mapError
      Failure.words = .error "boom" := by decide +kernel
  rw [htold] at hwords
  exact absurd hwords (by decide +kernel)

end RaceAlbum
