import RaceAlbum.Proofs.Service.Deleted
import RaceAlbum.Proofs.Service.Uploading

/-!
# What the deletion of a photo removes

A photo that was deleted has taken with it its row, the cyclists on it, their plates and their colours, and its object, and
nothing else (`Archive.IsWithout`, `Storage.IsWithout`). After that no call finds it and nothing shows it
(`World.LacksPhoto`), and its file name is free again in its event (`deletePhoto_removes_exactly`).
-/

namespace RaceAlbum

open Program

/-! ## Rows -/

/-- The rows of an archive are those of another one without a photo, the cyclists on it, and the plates and the colours of
these. They stand in the order in which they stood, and there is no other difference. -/
structure Archive.IsWithout (a' : Archive) (p : PhotoRow) (a : Archive) : Prop where
  photos : a'.photos = a.photos.filter fun r => r ≠ p
  cyclists : a'.cyclists = a.cyclists.filter fun c => c.photoId ≠ p.id
  plates : a'.plates = a.plates.filter fun r => ∀ c ∈ a.cyclists, c.photoId = p.id → c.id ≠ r.cyclistId
  colors : a'.colors = a.colors.filter fun r => ∀ c ∈ a.cyclists, c.photoId = p.id → c.id ≠ r.cyclistId
  rest : a' = { a with photos := a'.photos, cyclists := a'.cyclists, plates := a'.plates, colors := a'.colors }

namespace Archive

variable {a a' : Archive} {p : PhotoRow}

/-- A cyclist on another photo. -/
theorem not_photoHasCyclist_iff {photoId cyclistId : Uuid} :
    (!a.photoHasCyclist photoId cyclistId) = true ↔ ∀ c ∈ a.cyclists, c.photoId = photoId → c.id ≠ cyclistId := by
  simp [photoHasCyclist, ofPhoto]

/-- The deletion of a photo leaves the rows that are without it. -/
theorem isWithout_of_deletePhoto (ha : a.Constrained) (hp : p ∈ a.photos) (h : a.deletePhoto p.id = .ok a') :
    a'.IsWithout p a := by
  obtain rfl := deletePhoto_ok h
  refine ⟨List.filter_congr fun r hr => ?_, List.filter_congr fun c _ => ?_, List.filter_congr fun r _ => ?_,
    List.filter_congr fun r _ => ?_, rfl⟩
  · have hid : r.id ≠ p.id ↔ r ≠ p := not_congr ⟨ha.eq_of_photoId hr hp, fun heq => heq ▸ rfl⟩
    rw [Bool.eq_iff_iff, bne_iff_ne, decide_eq_true_iff]
    exact hid
  · rw [Bool.eq_iff_iff, decide_eq_true_iff]
    simp [ofPhoto]
  · rw [Bool.eq_iff_iff, decide_eq_true_iff]
    exact not_photoHasCyclist_iff
  · rw [Bool.eq_iff_iff, decide_eq_true_iff]
    exact not_photoHasCyclist_iff

/-- The photo itself is not among the rows without it. -/
theorem IsWithout.ne_id (h : a'.IsWithout p a) (ha : a.Constrained) (hp : p ∈ a.photos) : ∀ r ∈ a'.photos, r.id ≠ p.id := by
  intro r hr heq
  rw [h.photos] at hr
  obtain ⟨hr, hne⟩ := List.mem_filter.1 hr
  exact of_decide_eq_true hne (ha.eq_of_photoId hr hp heq)

/-- The file name of the photo is free in its event. -/
theorem IsWithout.filename_free (h : a'.IsWithout p a) (ha : a.Constrained) (hp : p ∈ a.photos) :
    ∀ r ∈ a'.photos, ¬(r.eventId = p.eventId ∧ r.filename = p.filename) := by
  rintro r hr ⟨hevent, hname⟩
  rw [h.photos] at hr
  obtain ⟨hr, hne⟩ := List.mem_filter.1 hr
  have hkey : (r.eventId, r.filename) = (p.eventId, p.filename) := by rw [hevent, hname]
  exact of_decide_eq_true hne (List.inj_on_of_nodup_map ha.filenames hr hp hkey)

/-- A photo that is not there is on no page of a search. -/
theorem ne_of_mem_searchPage {id : Uuid} (hid : ∀ r ∈ a.photos, r.id ≠ id) {f : PhotoFilters} {page : Page}
    {items : List PhotoListItem} (h : a.searchPage f page = .ok items) : ∀ i ∈ items, i.id ≠ id := by
  intro i hi
  rcases hs : Search.ofFilters f with g | s
  · unfold searchPage at h
    rw [hs] at h
    cases h
  · rw [searchPage_eq hs] at h
    obtain ⟨r, hr, rfl⟩ := exists_of_mem_page h hi
    exact hid r (mem_matching.1 hr).1

end Archive

/-! ## Objects -/

/-- A store holds what another one holds, but for the object of a key. Two keys are those of one object where they lead to one
place. -/
structure Storage.IsWithout (s' : Storage) (key : String) (s : Storage) : Prop where
  gone : s'.object? key = none
  otherKeys : ∀ k, s.placeOf? k ≠ s.placeOf? key → s'.object? k = s.object? k
  otherPlaces : ∀ p, s.placeOf? key ≠ some p → s'.contents p = s.contents p

/-- A removal that succeeds leaves the store without the object. -/
theorem Storage.isWithout_of_remove {s : Storage} {key : String} (hs : s.IsSound) (h : (s.remove key).1 = .ok ()) :
    (s.remove key).2.IsWithout key s := by
  have hchange := remove_changes hs key
  obtain ⟨place, hplace, hcontents⟩ := hchange.of_ok h
  constructor
  · rw [object?, hchange.places, hplace, hcontents]
    exact Function.update_self ..
  · intro k hk
    rw [object?, object?, hchange.places, hcontents]
    cases hother : s.placeOf? k with
    | none => rfl
    | some p =>
      have hne : p ≠ place := fun heq => hk (by rw [hother, hplace, heq])
      exact Function.update_of_ne hne ..
  · intro p hp
    have hne : p ≠ place := fun heq => hp (heq ▸ hplace)
    rw [hcontents, Function.update_of_ne hne]

/-! ## What does not find the photo -/

/-- No call finds a photo by its identifier, and no list and no search shows it. -/
structure World.LacksPhoto (w : World Tape) (id : Uuid) : Prop where
  get : run taped (PhotoService.get id) w = (.error (.notFound PhotoService.entity id), w)
  classify : ∀ ds, run taped (ClassificationService.classify id ds) w = (.error (.notFound PhotoService.entity id), w)
  classifyLoose : ∀ ds,
    run taped (ClassificationService.classifyLoose id ds) w = (.error (.notFound PhotoService.entity id), w)
  delete : run taped (PhotoService.delete id) w = (.error (.notFound PhotoService.entity id), w)
  list : ∀ eventId page items w', run taped (PhotoService.list eventId page) w = (.ok items, w') → ∀ i ∈ items, i.id ≠ id
  search : ∀ filters page items w', run taped (PhotoService.search filters page) w = (.ok items, w') →
    ∀ i ∈ items, i.id ≠ id

variable {w w' : World Tape}

/-- A photo that has no row is not there for anyone. -/
theorem World.lacksPhoto_of_missing {id : Uuid} (hid : ∀ r ∈ w.archive.photos, r.id ≠ id) : w.LacksPhoto id := by
  have hnone : w.archive.photo? id = none := by simpa [Archive.photo?] using hid
  have hfind := findPhoto_run_of_missing hid
  have hshow : run taped (call (.showPhoto id)) w = (.ok none, w) := by
    change (Except.ok (w.archive.photoDetail? id), w) = _
    rw [Archive.photoDetail?, hnone]
    rfl
  constructor
  · exact (run_bind_of_ok hshow).trans rfl
  · exact fun ds => run_bind_of_error hfind
  · exact fun ds => run_bind_of_error hfind
  · exact deletePhoto_run_of_missing hid
  · intro eventId page items w' h
    have hpage : w.archive.photoPage eventId page = .ok items := (Prod.mk.inj (run_archive rfl h).1).1
    rw [Archive.photoPage_eq] at hpage
    exact Archive.ne_of_mem_searchPage hid hpage
  · exact fun filters page items w' h => Archive.ne_of_mem_searchPage hid (Prod.mk.inj (run_archive rfl h).1).1

/-! ## The deletion -/

/-- A deletion that succeeds has made its statement and removed the object. -/
theorem deletePhoto_run_ok {p : PhotoRow} {id : Uuid} (ha : w.archive.Constrained) (hp : p ∈ w.archive.photos)
    (h : run taped (PhotoService.delete p.id) w = (.ok id, w')) :
    id = p.id ∧ w.archive.deletePhoto p.id = .ok w'.archive ∧ (w.storage.remove p.storageKey).1 = .ok () ∧
      w'.storage = (w.storage.remove p.storageKey).2 := by
  have h : run taped (call (.deletePhoto p.id) >>= fun _ => call (.removeObject p.storageKey) >>= fun _ => pure p.id) w =
      (.ok id, w') := (run_bind_of_ok (findPhoto_run ha hp)).symm.trans h
  obtain ⟨_, w₁, hdelete, h⟩ := run_bind_ok h
  obtain ⟨_, w₂, hremove, h⟩ := run_bind_ok h
  cases h
  have hstorage : w₁.storage = w.storage := by
    rw [run_call, taped, World.answerWith_archive rfl] at hdelete
    exact (congrArg World.storage (Prod.mk.inj hdelete).2).symm
  rw [removeObject_run, hstorage] at hremove
  obtain ⟨hok, rfl⟩ := Prod.mk.inj hremove
  exact ⟨rfl, (Archive.write_ok (run_archive rfl hdelete).1).1, hok, rfl⟩

/-- Deleting a photo removes exactly that photo. Where the tables keep their constraints, a deletion that succeeds leaves the
rows without the photo and what was seen on it, and the store without its object; all other rows and objects are as they
were. After that the photo is not there for anyone. A file of its name can be uploaded to its event again, if that is active:
whatever is drawn for it, the upload succeeds if the file breaks no rule of its own and its object can be stored. -/
theorem deletePhoto_removes_exactly {p : PhotoRow} {id : Uuid} (ha : w.archive.Constrained) (hs : w.storage.IsSound)
    (hp : p ∈ w.archive.photos) (h : run taped (PhotoService.delete p.id) w = (.ok id, w')) :
    id = p.id ∧ w'.archive.IsWithout p w.archive ∧ w'.archive.Constrained ∧ w'.storage.IsWithout p.storageKey w.storage ∧
    w'.LacksPhoto p.id ∧
    ∀ (file : UploadedFile) (t : Tape), file.filename = p.filename → w.archive.HasActiveEvent p.eventId →
      World.IsOpenTo { w' with supply := t } p.eventId [file] →
      (∀ i ∈ intakes p.eventId [file] t, i.refusal? = none ∧ (w'.storage.putIntake i).1 = .ok ()) →
      ∃ i w'', intakes p.eventId [file] t = [i] ∧
        run taped (PhotoService.upload p.eventId [file]) { w' with supply := t } = (.ok [i.id], w'') ∧
        World.Took { w' with supply := t } w'' [i] [] := by
  obtain ⟨hid, hdelete, hremove, hstorage⟩ := deletePhoto_run_ok ha hp h
  have hwithout := Archive.isWithout_of_deletePhoto ha hp hdelete
  refine ⟨hid, hwithout, ha.deletePhoto hdelete, hstorage ▸ Storage.isWithout_of_remove hs hremove,
    World.lacksPhoto_of_missing (hwithout.ne_id ha hp), ?_⟩
  intro file t hname hevent hopen hstorable
  obtain ⟨i, hi⟩ : ∃ i, intakes p.eventId [file] t = [i] := by
    have hlength := congrArg List.length (intakes_files p.eventId hopen.supply)
    rw [List.length_map] at hlength
    exact List.length_eq_one_iff.1 hlength
  obtain ⟨hrefusal, hput⟩ := hstorable i (hi ▸ List.mem_cons_self)
  have hthere : World.archive { w' with supply := t } |>.HasActiveEvent p.eventId := by
    have hevents : w'.archive.events = w.archive.events :=
      (congrArg Archive.events hwithout.rest :)
    rw [Archive.HasActiveEvent, hevents]
    exact hevent
  have hfree : ¬i.isTaken w'.archive = true := by
    have hmember : i ∈ intakes p.eventId [file] t := hi ▸ List.mem_cons_self
    obtain ⟨heventId, hfile⟩ := mem_intakes hmember
    rw [Intake.isTaken, heventId, List.mem_singleton.1 hfile, hname]
    simpa using hwithout.filename_free ha hp
  have hstop : i.stop? { w' with supply := t } = none := Intake.stop?_eq_none_iff.2 ⟨hput, hfree⟩
  have hstored := upload_stores hopen hthere (by simp [hi, hrefusal]) (by rw [hi]; exact .of_cons hstop (.nil _))
  rw [hi] at hstored
  obtain ⟨w'', hrun, htook⟩ := hstored
  exact ⟨i, w'', hi, hrun, htook⟩

/-- The small album with the objects of three photos. -/
def storedAlbum : World Tape where
  supply := ⟨[], []⟩
  archive := .smallAlbum
  storage := .bucket ⟨⟨"album", "", "", ""⟩, [("a.jpg", [0]), ("b.jpg", [1]), ("c.jpg", [2])], [], []⟩

/-- The first photo of the album, which shows two cyclists. -/
def firstPhoto : PhotoRow :=
  ⟨.ofNat 3, .ofNat 1, "a.jpg", "a.jpg", 1, "image/jpeg", some 640, none, .completed, none, none,
    ⟨.first, .ofParts 12 0 0 0⟩, some ⟨.first, .ofParts 12 0 0 0⟩⟩

/-- The first photo is removed with its two cyclists, their two plates and the two colours of one of them. The other photo of
that file name, which is of another event, stays, and a file of that name is stored again. -/
theorem firstPhoto_removed :
    ∃ w', run taped (PhotoService.delete firstPhoto.id) storedAlbum = (.ok firstPhoto.id, w') ∧
      w'.archive.IsWithout firstPhoto .smallAlbum ∧ w'.storage.IsWithout "a.jpg" storedAlbum.storage ∧
      w'.LacksPhoto firstPhoto.id ∧ w'.archive.photos.map PhotoRow.filename = ["b.jpg", "c.jpg", "a.jpg"] ∧
      w'.archive.cyclists.map CyclistRow.id = [.ofNat 9, .ofNat 10] ∧
      w'.archive.plates.map PlateRow.id = [.ofNat 11, .ofNat 13] ∧ w'.archive.colors.map ColorRow.id = [.ofNat 16] ∧
      ∃ (i : Intake) (w'' : World Tape), run taped (PhotoService.upload (.ofNat 1) [⟨"a.jpg", "image/jpeg", [3]⟩])
          { w' with supply := ⟨[⟨.last, .midnight⟩], [.ofNat 30, .ofNat 31]⟩ } = (.ok [i.id], w'') ∧
        w''.storage.object? i.key = some [3] := by
  have ha : storedAlbum.archive.Constrained := by decide +kernel
  have hp : firstPhoto ∈ storedAlbum.archive.photos := List.mem_cons_self
  have hrun : run taped (PhotoService.delete firstPhoto.id) storedAlbum = (.ok firstPhoto.id, _) :=
    (deletePhoto_run ha rfl hp).trans rfl
  obtain ⟨-, hrows, -, hobjects, hlacks, hagain⟩ := deletePhoto_removes_exactly ha trivial hp hrun
  refine ⟨_, hrun, hrows, hobjects, hlacks, by decide +kernel, by decide +kernel, by decide +kernel, by decide +kernel, ?_⟩
  obtain ⟨i, w'', hi, hupload, htook⟩ := hagain ⟨"a.jpg", "image/jpeg", [3]⟩ ⟨[⟨.last, .midnight⟩], [.ofNat 30, .ofNat 31]⟩
    rfl ⟨_, List.mem_cons_self, rfl, rfl⟩
    ⟨by decide, trivial, by decide, by decide, by decide +kernel, by decide +kernel, by decide +kernel⟩
    (by
      intro i hi
      obtain rfl := List.mem_singleton.1 hi
      exact ⟨Option.isNone_iff_eq_none.1 (by decide +kernel), rfl⟩)
  have hfile : i.file.data = [3] := by
    obtain rfl := List.singleton_inj.1 hi
    rfl
  exact ⟨i, w'', hupload, hfile ▸ htook.objects i List.mem_cons_self⟩

end RaceAlbum
