import RaceAlbum.Proofs.Archive.SavedPhotos
import RaceAlbum.Proofs.Service.Intakes
import RaceAlbum.Proofs.Service.Recordable
import RaceAlbum.Proofs.Storage.Contents

/-!
# Storing files one after the other

A file stops an upload if its object cannot be stored, or if its name is taken in the event. `Intake.stop?` says so of one file in
a world, and `World.Passes` of files none of which does. Files that pass have their rows and their objects (`storeAll_run`). The
first one that is stopped ends the upload, and its object is not there or was removed again (`storeAll_stopped`).

What is added to the objects is read off the store as a map (`Storage.Gains`): the keys of files lead to different places, since
their fresh identifiers differ. Which calls fail is not limited: a bucket fails any that it is set to (`stop?_bucket`).
-/

namespace RaceAlbum

open Program

/-! ## One file -/

/-- The name of the file is that of a photo of the event. -/
def Intake.isTaken (i : Intake) (a : Archive) : Bool :=
  a.photos.any fun r => r.eventId == i.eventId && r.filename == i.file.filename

/-- The store after the object of an intake was put into it, and what came of that. -/
def Storage.putIntake (s : Storage) (i : Intake) : Except Failure Unit × Storage :=
  s.put i.key i.file.contentType i.file.data

/-- What stops an upload at a file: its object cannot be stored, or its name is taken. -/
def Intake.stop? (i : Intake) (w : World Tape) : Option Failure :=
  match (w.storage.putIntake i).1 with
  | .error f => some f
  | .ok () => if i.isTaken w.archive then some (.ofRule .duplicateFilename) else none

theorem Intake.stop?_eq_none_iff {i : Intake} {w : World Tape} :
    i.stop? w = none ↔ (w.storage.putIntake i).1 = .ok () ∧ ¬i.isTaken w.archive = true := by
  unfold stop?
  split
  · rename_i f hfails
    simp [hfails]
  · rename_i hok
    simp [hok]

theorem Intake.stop?_eq_some_iff {i : Intake} {w : World Tape} {f : Failure} :
    i.stop? w = some f ↔ (w.storage.putIntake i).1 = .error f ∨
      (w.storage.putIntake i).1 = .ok () ∧ i.isTaken w.archive = true ∧ .ofRule .duplicateFilename = f := by
  unfold stop?
  split
  · rename_i g hfails
    simp [hfails]
  · rename_i hok
    simp [hok]

/-- The world with the row and the object of an intake. -/
def World.withIntake (w : World Tape) (i : Intake) : World Tape :=
  { w with archive := { w.archive with photos := w.archive.photos ++ [i.row] }, storage := (w.storage.putIntake i).2 }

/-- The world with the rows and the objects of intakes. -/
def World.withIntakes (w : World Tape) (is : List Intake) : World Tape := is.foldl World.withIntake w

/-- A row can be added for each of the intakes: their event is there, their identifiers are new, and nothing forbids it. -/
structure Archive.HasRoomFor (a : Archive) (is : List Intake) : Prop where
  unblocked : a.isBlocked .photos .insert = false
  event : ∀ i ∈ is, a.hasEvent i.eventId = true
  sizes : ∀ i ∈ is, isInt64 i.file.data.length = true
  distinct : (is.map fun i => i.id).Nodup
  newIds : ∀ i ∈ is, ∀ r ∈ a.photos, r.id ≠ i.id

/-- Room that is left for the others when the row of the first was added. -/
theorem Archive.HasRoomFor.tail {w : World Tape} {i : Intake} {is : List Intake} (h : w.archive.HasRoomFor (i :: is)) :
    (w.withIntake i).archive.HasRoomFor is := by
  obtain ⟨hfirst, hdistinct⟩ := List.nodup_cons.1 h.distinct
  refine ⟨h.unblocked, fun j hj => h.event j (List.mem_cons_of_mem _ hj), fun j hj => h.sizes j (List.mem_cons_of_mem _ hj),
    hdistinct, fun j hj r hr => ?_⟩
  rcases List.mem_append.1 hr with hr | hr
  · exact h.newIds j (List.mem_cons_of_mem _ hj) r hr
  · rw [List.mem_singleton.1 hr]
    exact fun heq : i.id = j.id => hfirst (List.mem_map.2 ⟨j, hj, heq.symm⟩)

/-- A new photo is added, or refused since its name is taken. -/
theorem storePhoto_intake {a : Archive} {i : Intake} {is : List Intake} (h : a.HasRoomFor (i :: is)) :
    a.storePhoto i.photo =
      if i.isTaken a then .error (.ofRule .duplicateFilename) else .ok { a with photos := a.photos ++ [i.row] } := by
  have hnew : ∀ r ∈ a.photos, r.id ≠ i.row.id := h.newIds i List.mem_cons_self
  have hmissing : a.hasPhoto i.photo.id = false :=
    Bool.eq_false_iff.2 fun hthere => by
      obtain ⟨r, hr, hid⟩ := Archive.hasPhoto_iff.1 hthere
      exact hnew r hr hid
  have hname : a.hasFilename i.row = i.isTaken a := by
    rw [Archive.hasFilename, Intake.isTaken, Bool.eq_iff_iff, List.any_eq_true, List.any_eq_true]
    refine exists_congr fun r => and_congr_right fun hr => ?_
    rw [bne_iff_ne.2 (hnew r hr)]
    exact Iff.rfl
  have hsize : (PhotoRow.ofEntity i.photo).integers.all isInt64 = true := by
    rw [i.ofEntity_photo]
    simpa [PhotoRow.integers, Intake.row] using h.sizes i List.mem_cons_self
  have hevent : a.hasEvent i.photo.eventId = true := h.event i List.mem_cons_self
  rw [Archive.storePhoto_eq (by rw [hmissing]; exact h.unblocked) hsize, i.ofEntity_photo, hname, if_pos hevent,
    upsert_of_new hnew]

/-- An object is removed again. -/
theorem discard_run {key : String} {w : World Tape} (h : (w.storage.remove key).1 = .ok ()) :
    run taped (PhotoService.discard key) w = (.ok (), { w with storage := (w.storage.remove key).2 }) := by
  have hcall : run taped (call (.removeObject key)) w = (.ok (), { w with storage := (w.storage.remove key).2 }) := by
    rw [run_call, taped, World.answerWith_storage rfl]
    exact Prod.ext h rfl
  exact (run_attempt_bind_of hcall).trans rfl

/-- What comes of putting the object of an intake. -/
theorem putIntake_run (w : World Tape) (i : Intake) :
    run taped (call (.putObject i.photo.storageKey i.file.contentType i.file.data)) w =
      ((w.storage.putIntake i).1, { w with storage := (w.storage.putIntake i).2 }) := by
  rw [run_call, taped, World.answerWith_storage rfl]
  rfl

/-- What comes of saving the photo of an intake. -/
theorem savePhoto_run {w : World Tape} {i : Intake} {is : List Intake} (h : w.archive.HasRoomFor (i :: is)) :
    run taped (call (.savePhoto i.photo)) w =
      if i.isTaken w.archive then (.error (.ofRule .duplicateFilename), w)
      else (.ok i.photo.assumeUtc, { w with archive := { w.archive with photos := w.archive.photos ++ [i.row] } }) := by
  have hstore := storePhoto_intake h
  rw [run_call, taped, World.answerWith_archive rfl]
  by_cases htaken : i.isTaken w.archive = true
  · rw [if_pos htaken] at hstore ⊢
    rw [Archive.answer_savePhoto_of_error hstore]
  · rw [if_neg htaken] at hstore ⊢
    rw [Archive.answer_savePhoto_of_ok hstore]

/-- A file that nothing stops has its row and its object. -/
theorem store_run {w : World Tape} {i : Intake} {is : List Intake} (h : w.archive.HasRoomFor (i :: is))
    (hstop : i.stop? w = none) : run taped (PhotoService.store i.prepared) w = (.ok i.id, w.withIntake i) := by
  obtain ⟨hok, htaken⟩ := Intake.stop?_eq_none_iff.1 hstop
  have hput := putIntake_run w i
  rw [hok] at hput
  have hsave := savePhoto_run (w := { w with storage := (w.storage.putIntake i).2 }) h
  rw [if_neg htaken] at hsave
  exact (run_bind_of_ok hput).trans ((run_attempt_bind_of hsave).trans rfl)

/-- The store after the object of an intake could not be put into it, or was put into it and removed again. -/
def Storage.Attempted (s : Storage) (i : Intake) (s' : Storage) : Prop :=
  ((∃ f, (s.putIntake i).1 = .error f) ∧ s' = (s.putIntake i).2) ∨
    ((s.putIntake i).1 = .ok () ∧ ((s.putIntake i).2.remove i.key).1 = .ok () ∧ s' = ((s.putIntake i).2.remove i.key).2)

/-- A file that is stopped leaves the rows as they were, and its object is not there or was removed again. -/
theorem store_stopped {w : World Tape} {i : Intake} {is : List Intake} {f : Failure} (h : w.archive.HasRoomFor (i :: is))
    (hstop : i.stop? w = some f)
    (hremovals : RemovalsSucceed taped (PhotoService.store i.prepared) w) :
    ∃ w', run taped (PhotoService.store i.prepared) w = (.error f, w') ∧ w'.archive = w.archive ∧
      w.storage.Attempted i w'.storage := by
  have hput := putIntake_run w i
  rcases Intake.stop?_eq_some_iff.1 hstop with hfails | ⟨hok, htaken, rfl⟩
  · rw [hfails] at hput
    exact ⟨_, run_bind_of_error hput, rfl, .inl ⟨⟨f, hfails⟩, rfl⟩⟩
  · rw [hok] at hput
    have hsave := savePhoto_run (w := { w with storage := (w.storage.putIntake i).2 }) h
    rw [if_pos htaken] at hsave
    have hattempt : run taped (call (.savePhoto i.photo)).attempt { w with storage := (w.storage.putIntake i).2 } =
        (.ok (.error (.ofRule .duplicateFilename)), { w with storage := (w.storage.putIntake i).2 }) := by
      rw [run_attempt, hsave]
    have hasked : Asked taped (PhotoService.store i.prepared) w (.removeObject i.key)
        { w with storage := (w.storage.putIntake i).2 } :=
      .after hput (.after hattempt (Asked.bind_iff.2 (.inl (Asked.bind_iff.2 (.inl (.now _ _ _))))))
    have hremoved : ((w.storage.putIntake i).2.remove i.key).1 = .ok () := by
      have hanswer := hremovals _ _ hasked
      rw [taped, World.answerWith_storage rfl] at hanswer
      exact hanswer
    have hdiscard := discard_run (w := { w with storage := (w.storage.putIntake i).2 }) hremoved
    exact ⟨{ w with storage := ((w.storage.putIntake i).2.remove i.key).2 }, (run_bind_of_ok hput).trans
      ((run_attempt_bind_of hsave).trans ((run_bind_of_ok hdiscard).trans rfl)), rfl, .inr ⟨hok, hremoved, rfl⟩⟩

/-! ## File after file -/

/-- Nothing stops an upload at any of the files. -/
def World.Passes (w : World Tape) (is : List Intake) : Prop :=
  ∀ before i after, is = before ++ i :: after → i.stop? (w.withIntakes before) = none

/-- Nothing stops an upload of no files. -/
theorem World.Passes.nil (w : World Tape) : w.Passes [] := by
  intro before i after heq
  simp at heq

/-- Nothing stops an upload if nothing stops it at the first file and then at the others. -/
theorem World.Passes.of_cons {w : World Tape} {i : Intake} {is : List Intake} (hstop : i.stop? w = none) (h : (w.withIntake i).Passes is) :
    w.Passes (i :: is) := by
  intro before j after heq
  rcases List.cons_eq_append_iff.1 heq with ⟨rfl, heq⟩ | ⟨before', rfl, heq⟩
  · cases heq
    exact hstop
  · exact h before' j after (List.cons.inj heq).2

theorem World.Passes.cons {w : World Tape} {i : Intake} {is : List Intake} (h : w.Passes (i :: is)) :
    i.stop? w = none ∧ (w.withIntake i).Passes is := by
  refine ⟨h [] i is rfl, fun before j after heq => ?_⟩
  have hstop := h (i :: before) j after (by rw [heq, List.cons_append])
  exact hstop

/-- Files that nothing stops have their rows and their objects. -/
theorem storeAll_run {w : World Tape} {is : List Intake} (h : w.archive.HasRoomFor is) (hpasses : w.Passes is) :
    run taped (forAll PhotoService.store (is.map Intake.prepared)) w = (.ok (is.map fun i => i.id), w.withIntakes is) := by
  induction is generalizing w with
  | nil => rfl
  | cons i is ih =>
    obtain ⟨hstop, hrest⟩ := hpasses.cons
    rw [List.map_cons, run_forAll_cons (store_run h hstop), ih h.tail hrest]
    rfl

/-- Room that is left for the last intakes when the rows of the first were added. -/
theorem Archive.HasRoomFor.drop {w : World Tape} {before after : List Intake} (h : w.archive.HasRoomFor (before ++ after)) :
    (w.withIntakes before).archive.HasRoomFor after := by
  induction before generalizing w with
  | nil => exact h
  | cons i before ih => exact ih h.tail

/-- There is room for some of the intakes that there is room for. -/
theorem Archive.HasRoomFor.take {a : Archive} {before after : List Intake} (h : a.HasRoomFor (before ++ after)) :
    a.HasRoomFor before where
  unblocked := h.unblocked
  event i hi := h.event i (List.mem_append_left _ hi)
  sizes i hi := h.sizes i (List.mem_append_left _ hi)
  distinct := by
    have hdistinct := h.distinct
    rw [List.map_append] at hdistinct
    exact (List.nodup_append.1 hdistinct).1
  newIds i hi := h.newIds i (List.mem_append_left _ hi)

/-- The first file that is stopped ends the upload; those before it have their rows and their objects. -/
theorem storeAll_stopped {w : World Tape} {before after : List Intake} {i : Intake} {f : Failure}
    (h : w.archive.HasRoomFor (before ++ i :: after)) (hpasses : w.Passes before)
    (hstop : i.stop? (w.withIntakes before) = some f)
    (hremovals : RemovalsSucceed taped (forAll PhotoService.store ((before ++ i :: after).map Intake.prepared)) w) :
    ∃ w', run taped (forAll PhotoService.store ((before ++ i :: after).map Intake.prepared)) w = (.error f, w') ∧
      w'.archive = (w.withIntakes before).archive ∧ (w.withIntakes before).storage.Attempted i w'.storage := by
  have hbefore := storeAll_run h.take hpasses
  rw [List.map_append, List.map_cons] at hremovals ⊢
  obtain ⟨w', hrun, hkept⟩ := store_stopped h.drop hstop fun key s' hasked =>
    hremovals key s' (.forAll hbefore hasked)
  exact ⟨w', run_forAll_of_error hbefore hrun, hkept⟩

/-! ## Objects -/

/-- One store is another one with the objects of intakes. -/
structure Storage.Gains (s s' : Storage) (is : List Intake) : Prop where
  sound : s'.IsSound
  places : ∀ key, s'.placeOf? key = s.placeOf? key
  objects : ∀ i ∈ is, s'.object? i.key = some i.file.data
  others : ∀ p, (∀ i ∈ is, s.placeOf? i.key ≠ some p) → s'.contents p = s.contents p

namespace Storage.Gains

variable {s s₁ s' : Storage} {i : Intake} {is : List Intake}

theorem refl (hs : s.IsSound) : s.Gains s [] := ⟨hs, fun _ => rfl, nofun, fun _ _ => rfl⟩

/-- What changes no object gains what was gained before. -/
theorem of_same (h : s.Gains s₁ is) (hsound : s'.IsSound) (hplaces : ∀ key, s'.placeOf? key = s₁.placeOf? key)
    (hcontents : s'.contents = s₁.contents) : s.Gains s' is where
  sound := hsound
  places key := (hplaces key).trans (h.places key)
  objects i hi := by
    rw [object?, hplaces, hcontents]
    exact h.objects i hi
  others p hp := by
    rw [hcontents]
    exact h.others p hp

/-- An object is put, and then others under keys with other fresh identifiers. -/
theorem cons (hs : s.IsSound) (hput : (s.putIntake i).1 = .ok ()) (h : (s.putIntake i).2.Gains s' is)
    (hmarks : ∀ j ∈ is, j.mark ≠ i.mark) : s.Gains s' (i :: is) := by
  have hchange : s.Changes i.key _ (s.putIntake i).1 (s.putIntake i).2 := put_changes hs _ _ _
  obtain ⟨place, hplace, hcontents⟩ := hchange.of_ok hput
  have hsame (key : String) : s'.placeOf? key = s.placeOf? key := (h.places key).trans (hchange.places key)
  have helsewhere : ∀ j ∈ is, (s.putIntake i).2.placeOf? j.key ≠ some place := fun j hj heq =>
    hmarks j hj (mark_eq_of_placeOf? ((hchange.places j.key).symm.trans heq) hplace)
  refine ⟨h.sound, hsame, List.forall_mem_cons.2 ⟨?_, h.objects⟩, fun p hp => ?_⟩
  · rw [object?, hsame, hplace]
    change s'.contents place = _
    rw [h.others place helsewhere, hcontents, Function.update_self]
  · obtain ⟨hfirst, hrest⟩ := List.forall_mem_cons.1 hp
    have hne : p ≠ place := fun heq => hfirst (heq ▸ hplace)
    have hnot : ∀ j ∈ is, (s.putIntake i).2.placeOf? j.key ≠ some p := fun j hj heq =>
      hrest j hj ((hchange.places j.key).symm.trans heq)
    rw [h.others p hnot, hcontents, Function.update_of_ne hne]

/-- Nothing is under a key with another fresh identifier that nothing was under before. -/
theorem object?_eq_none (h : s.Gains s' is) (hfree : s.object? i.key = none) (hmarks : ∀ j ∈ is, j.mark ≠ i.mark) :
    s'.object? i.key = none := by
  rw [object?, h.places]
  cases hplace : s.placeOf? i.key with
  | none => rfl
  | some p =>
    rw [object?, hplace] at hfree
    exact (h.others p fun j hj heq => hmarks j hj (mark_eq_of_placeOf? heq hplace)).trans hfree

/-- What comes of an object that could not be put, or was put and removed again, if nothing was under its key. -/
theorem attempted (h : s.Gains s₁ is) (hfree : s₁.object? i.key = none) (hattempt : s₁.Attempted i s') :
    s.Gains s' is := by
  have hput : s₁.Changes i.key _ (s₁.putIntake i).1 (s₁.putIntake i).2 := put_changes h.sound _ _ _
  rcases hattempt with ⟨⟨f, hf⟩, rfl⟩ | ⟨hok, hremoved, rfl⟩
  · exact h.of_same hput.sound hput.places (hput.of_error hf)
  · have hremove := remove_changes hput.sound i.key
    obtain ⟨place, hplace, hcontents⟩ := hput.of_ok hok
    obtain ⟨place', hplace', hcontents'⟩ := hremove.of_ok hremoved
    rw [hput.places, hplace] at hplace'
    cases hplace'
    have hnone : s₁.contents place = none := by
      rw [object?, hplace] at hfree
      exact hfree
    refine h.of_same hremove.sound (fun key => (hremove.places key).trans (hput.places key)) ?_
    rw [hcontents', hcontents, Function.update_idem, ← hnone, Function.update_eq_self]

end Storage.Gains

/-- Where nothing stops an upload, the objects of its files are gained. -/
theorem World.Passes.gains {w : World Tape} {is : List Intake} (hpasses : w.Passes is) (hs : w.storage.IsSound)
    (hmarks : (is.map fun i => i.mark).Nodup) : w.storage.Gains (w.withIntakes is).storage is := by
  induction is generalizing w with
  | nil => exact .refl hs
  | cons i is ih =>
    obtain ⟨hstop, hrest⟩ := hpasses.cons
    obtain ⟨hfirst, hmarks⟩ := List.nodup_cons.1 hmarks
    have hput := (Intake.stop?_eq_none_iff.1 hstop).1
    have hsound := (Storage.put_changes hs i.key i.file.contentType i.file.data).sound
    exact .cons hs hput (ih hrest hsound hmarks) fun j hj heq => hfirst (List.mem_map.2 ⟨j, hj, heq⟩)

/-! ## Buckets -/

/-- A bucket that objects were put into has counted a call for each, and the same calls to it fail as before. -/
theorem withIntakes_bucket {w : World Tape} {b : BucketStore} (hw : w.storage = .bucket b) (is : List Intake) :
    ∃ b', (w.withIntakes is).storage = .bucket b' ∧ b'.calls.length = b.calls.length + is.length ∧
      b'.faults = b.faults := by
  induction is generalizing w b with
  | nil => exact ⟨b, hw, rfl, rfl⟩
  | cons i is ih =>
    obtain ⟨b₁, hb₁, hcalls₁, hfaults₁⟩ : ∃ b₁, (w.withIntake i).storage = .bucket b₁ ∧
        b₁.calls.length = b.calls.length + 1 ∧ b₁.faults = b.faults := by
      rw [World.withIntake, hw]
      refine ⟨(b.put i.key i.file.contentType i.file.data).2, rfl, ?_⟩
      unfold BucketStore.put
      rcases b.call_cases (.put i.key i.file.data.length i.file.contentType)
        (fun os => BucketStore.without i.key os ++ [(i.key, i.file.data)]) with hok | ⟨⟨f, hf⟩, -⟩
      · rw [hok]
        exact ⟨List.length_append, rfl⟩
      · rw [hf]
        exact ⟨List.length_append, rfl⟩
    obtain ⟨b', hb', hcalls, hfaults⟩ := ih hb₁
    refine ⟨b', hb', ?_, hfaults.trans hfaults₁⟩
    rw [hcalls, hcalls₁, List.length_cons, Nat.add_assoc, Nat.add_comm 1]

/-- Any set of calls to a bucket may fail: a file is stopped if the call for its object is one of them, by its number, and else
if its name is taken. -/
theorem stop?_bucket {w : World Tape} {b : BucketStore} (hw : w.storage = .bucket b) (before : List Intake) (i : Intake) :
    i.stop? (w.withIntakes before) =
      match List.lookup (b.calls.length + before.length + 1) b.faults with
      | some fault => some (BucketStore.failureOf (.put i.key i.file.data.length i.file.contentType) fault)
      | none => if i.isTaken (w.withIntakes before).archive then some (.ofRule .duplicateFilename) else none := by
  obtain ⟨b', hb', hcalls, hfaults⟩ := withIntakes_bucket hw before
  rw [Intake.stop?, hb', ← hcalls, ← hfaults]
  simp only [Storage.putIntake, Storage.put, BucketStore.put, BucketStore.call, List.length_append, List.length_singleton]
  cases List.lookup (b'.calls.length + 1) b'.faults with
  | some fault => rfl
  | none => rfl

/-- A bucket no call to which fails stays one, whatever is asked. -/
theorem World.answerWith_faultless {σ : Type} {supply : Handler σ} {w : World σ} (p : Port)
    (hw : ∃ b, w.storage = .bucket b ∧ b.faults = []) :
    ∃ b, (World.answerWith supply p w).2.storage = .bucket b ∧ b.faults = [] := by
  obtain ⟨b, hb, hfaults⟩ := hw
  have hcall (c : BucketCall) (change : List (String × Bytes) → List (String × Bytes)) :
      (b.call c change).2.faults = [] := by
    rcases b.call_cases c change with hok | ⟨⟨f, hf⟩, -⟩
    · rw [hok]
      exact hfaults
    · rw [hf]
      exact hfaults
  cases ha : p.addressee with
  | supply =>
    rw [World.answerWith_supply ha]
    exact ⟨b, hb, hfaults⟩
  | archive =>
    rw [World.answerWith_archive ha]
    exact ⟨b, hb, hfaults⟩
  | storage =>
    rw [World.answerWith_storage ha, hb]
    cases p with
    | putObject key contentType data => exact ⟨(b.put key contentType data).2, rfl, hcall _ _⟩
    | removeObject key => exact ⟨(b.remove key).2, rfl, hcall _ _⟩
    | objectUrl key => exact ⟨b, rfl, hfaults⟩
    | _ => cases ha

/-- Where no call to a bucket fails, objects that are to be removed are removed. -/
theorem removalsSucceed_of_faultless {α σ : Type} {supply : Handler σ} (x : Program α) {w : World σ}
    (hw : ∃ b, w.storage = .bucket b ∧ b.faults = []) : RemovalsSucceed (World.answerWith supply) x w := by
  intro key w' hasked
  have hkept : ∃ b, w'.storage = .bucket b ∧ b.faults = [] := by
    generalize Port.removeObject key = q at hasked
    induction hasked with
    | now p next s => exact hw
    | later _ ih => exact ih (World.answerWith_faultless _ hw)
  obtain ⟨b, hb, hfaults⟩ := hkept
  rw [World.answerWith_storage rfl, hb]
  change (b.call (.delete key) (BucketStore.without key)).1 = .ok ()
  rw [BucketStore.call, hfaults]
  rfl

end RaceAlbum
