import Mathlib.Data.List.Flatten
import RaceAlbum.Proofs.Service.Session
import RaceAlbum.Proofs.Service.Sound

/-!
# No object is lost

Calls run side by side in any order of their questions, each with a tape of its own, and the bucket may fail at any call. At
any moment the photo of every row has its object, with the bytes of the file that was uploaded for it, and every object
without a row is in the hands of a call or is there because its removal failed (`no_object_lost`).
-/

namespace RaceAlbum

open Program

/-! ## Lots of calls -/

/-- The identifiers of the lots of an upload are taken from those that are given, in their order. -/
theorem lots_ids_sublist (eventId : Uuid) (files : List UploadedFile) (ids : List Uuid) :
    ((lots eventId files ids).flatMap fun l => [l.mark, l.id]).Sublist ids := by
  induction files generalizing ids with
  | nil => exact List.nil_sublist _
  | cons file files ih =>
    rcases ids with _ | ⟨mark, _ | ⟨id, ids⟩⟩
    · exact List.nil_sublist _
    · exact List.nil_sublist _
    · exact ((ih ids).cons_cons id).cons_cons mark

theorem lotsOf_ids_sublist (s : ServiceCall × Tape) : ((lotsOf s).flatMap fun l => [l.mark, l.id]).Sublist s.2.ids := by
  obtain ⟨c, t⟩ := s
  cases c with
  | uploadPhotos eventId files => exact lots_ids_sublist eventId files t.ids
  | _ => exact List.nil_sublist _

/-- Where no identifier is given twice, lots differ. -/
theorem distinct_lots {starts : List (ServiceCall × Tape)} (hids : (starts.flatMap fun s => s.2.ids).Nodup) :
    Distinct (starts.flatMap lotsOf) := by
  have hnodup : ((starts.flatMap lotsOf).flatMap fun l => [l.mark, l.id]).Nodup := by
    refine List.Nodup.sublist ?_ hids
    rw [List.flatMap_assoc]
    exact List.Sublist.flatMap_right _ fun s _ => lotsOf_ids_sublist s
  have hpairs := (List.nodup_flatMap.1 hnodup).2
  constructor
  · refine List.pairwise_map.2 (hpairs.imp fun {l l'} hdisjoint heq => ?_)
    exact hdisjoint (a := l.id) (by simp) (by simp [heq])
  · refine List.pairwise_map.2 (hpairs.imp fun {l l'} hdisjoint heq => ?_)
    exact hdisjoint (a := l.mark) (by simp) (by simp [photoKey_mark_inj heq])

/-- One of two related lists may go on at a place where the other does. The places that stay are listed apart. -/
theorem forall₂_set {α β : Type} {R : α → β → Prop} {as : List α} {bs : List β} {i : Nat} {a : α}
    (h : List.Forall₂ R as bs) (ha : as[i]? = some a) :
    ∃ b rest, R a b ∧ bs.Perm (b :: rest) ∧
      ∀ a' b', R a' b' → ∃ bs', bs'.Perm (b' :: rest) ∧ List.Forall₂ R (as.set i a') bs' := by
  induction h generalizing i with
  | nil => cases ha
  | @cons a₀ b₀ as bs hab h ih =>
    cases i with
    | zero =>
      cases ha
      exact ⟨b₀, bs, hab, .refl _, fun a' b' hab' => ⟨b' :: bs, .refl _, .cons hab' h⟩⟩
    | succ i =>
      obtain ⟨b, rest, hb, hperm, hset⟩ := ih ha
      refine ⟨b, b₀ :: rest, hb, (hperm.cons b₀).trans (.swap b b₀ rest), fun a' b' hab' => ?_⟩
      obtain ⟨bs', hperm', hset'⟩ := hset a' b' hab'
      exact ⟨b₀ :: bs', (hperm'.cons b₀).trans (.swap b' b₀ rest), .cons hab hset'⟩

/-! ## Scenes -/

/-- A call handles lots with care, and this is what it has to do. -/
def Thread.Does (t : Thread) (x : Task) : Prop :=
  CarefulProgram t.call.TouchesObjects t.tape.ids x.todo x.stage t.program

namespace Scene

variable {ls : List Lot} {scene : Scene}

/-- What the calls of a scene have to do fits the rows and the objects of a bucket. -/
def IsSound (ls : List Lot) (scene : Scene) : Prop :=
  ∃ xs b, scene.storage = .bucket b ∧ List.Forall₂ Thread.Does scene.threads xs ∧ Sound ls xs (.of scene.archive b)

/-- A scene without rows and objects is sound. -/
theorem start_isSound {starts : List (ServiceCall × Tape)} (hd : Distinct (starts.flatMap lotsOf))
    (settings : BucketSettings) (faults : List (Nat × CallFault)) :
    IsSound (starts.flatMap lotsOf) (start starts (.bucket ⟨settings, [], [], faults⟩)) := by
  refine ⟨starts.map fun s => ⟨lotsOf s, .calm none⟩, ⟨settings, [], [], faults⟩, rfl, ?_, ?_⟩
  · rw [start, List.forall₂_map_left_iff, List.forall₂_map_right_iff, List.forall₂_same]
    exact fun s _ => s.1.program_careful s.2
  · constructor
    · rw [List.flatMap_map]
      exact hd.ids.of_map _
    · intro x hx l hl
      obtain ⟨s, hs, rfl⟩ := List.mem_map.1 hx
      exact List.mem_flatMap.2 ⟨s, hs, hl⟩
    · intro x hx
      obtain ⟨s, -, rfl⟩ := List.mem_map.1 hx
      exact nofun
    · exact nofun
    · exact nofun

/-- A sound scene stays sound when one of its calls asks its next question. -/
theorem IsSound.step (h : IsSound ls scene) (hd : Distinct ls) (i : Nat) : IsSound ls (scene.step i) := by
  obtain ⟨xs, b, hstorage, hthreads, hsound⟩ := h
  unfold Scene.step
  split
  · exact ⟨xs, b, hstorage, hthreads, hsound⟩
  · rename_i t ht
    obtain ⟨x, rest, hx, hperm, hset⟩ := forall₂_set hthreads ht
    have hrows (r : PhotoRow) (hr : r ∈ scene.archive.photos) : ∃ l ∈ ls, r.origin = l.origin := by
      obtain ⟨l, hspent, horigin, -⟩ := hsound.shown r.origin (List.mem_map_of_mem hr)
      exact ⟨l, hspent.known, horigin⟩
    rcases hstep : t.program.step taped ⟨t.tape, scene.archive, scene.storage⟩ with ⟨program, w⟩
    rw [hstorage] at hstep
    obtain ⟨x', b', hstorage', hcareful, hmove⟩ := hx.step hrows hstep
    obtain ⟨xs', hperm', hthreads'⟩ := hset { t with tape := w.supply, program := program } x' hcareful
    exact ⟨xs', b', hstorage', hthreads', ((hsound.perm hperm).move hd hmove).perm hperm'.symm⟩

theorem IsSound.run (h : IsSound ls scene) (hd : Distinct ls) (schedule : List Nat) : IsSound ls (scene.run schedule) := by
  induction schedule generalizing scene with
  | nil => exact h
  | cons i schedule ih => exact ih (h.step hd i)

end Scene

/-! ## Objects of scenes -/

/-- The call uploads or deletes photos, and is about to save the row of an object or to remove the object. -/
structure Thread.InProgressOn (t : Thread) (key : String) : Prop where
  touches : t.call.TouchesObjects
  next : ∃ p next, t.program = .ask p next ∧ ((∃ q, p = .savePhoto q ∧ q.storageKey = key) ∨ p = .removeObject key)

theorem Thread.Does.inProgressOn {t : Thread} {x : Task} {key : String} (h : t.Does x) (hx : x.stage.handled = some key) :
    t.InProgressOn key := by
  obtain ⟨todo, _ | l | l⟩ := x
  · cases hx
  · obtain ⟨hT, p, next, hask, hkey⟩ := h.asks_savePhoto
    exact ⟨hT, _, next, hask, .inl ⟨p, rfl, hkey.trans (Option.some.inj hx)⟩⟩
  · obtain ⟨hT, next, hask⟩ := h.asks_removeObject
    exact ⟨hT, _, next, hask, .inr (congrArg Port.removeObject (Option.some.inj hx))⟩

/-- No object of a scene is lost, where its bucket is `b` and the files were uploaded in the lots `ls`. -/
structure Scene.LosesNoObject (scene : Scene) (ls : List Lot) (b : BucketStore) : Prop where
  /-- Every row comes from a file. Its object is there, with the bytes of the file, and they are as many as the row says. -/
  shown : ∀ r ∈ scene.archive.photos, ∃ l ∈ ls, r.origin = l.origin ∧ r.fileSize = l.file.data.length ∧
    ∀ data, (r.storageKey, data) ∈ b.objects ↔ data = l.file.data
  /-- Every object has a row, or an upload or a deletion is under way on it, or it could not be removed. -/
  accounted : ∀ o ∈ b.objects, (∃ r ∈ scene.archive.photos, r.storageKey = o.1) ∨
    (∃ t ∈ scene.threads, t.InProgressOn o.1) ∨ b.FailedToRemove o.1
  /-- Once all calls are finished, and if no removal failed, there are the objects of the rows and no others. -/
  exact : (∀ t ∈ scene.threads, t.IsFinished) → (∀ key, ¬b.FailedToRemove key) →
    ∀ key, key ∈ b.objects.map Prod.fst ↔ key ∈ scene.archive.photos.map PhotoRow.storageKey

theorem Scene.IsSound.losesNoObject {scene : Scene} {ls : List Lot} (h : scene.IsSound ls) :
    ∃ b, scene.storage = .bucket b ∧ scene.LosesNoObject ls b := by
  obtain ⟨xs, b, hstorage, hthreads, hsound⟩ := h
  have hshown (r : PhotoRow) (hr : r ∈ scene.archive.photos) : ∃ l ∈ ls, r.origin = l.origin ∧
      r.fileSize = l.file.data.length ∧ ∀ data, (r.storageKey, data) ∈ b.objects ↔ data = l.file.data := by
    obtain ⟨l, hspent, horigin, hholds⟩ := hsound.shown r.origin (List.mem_map_of_mem hr)
    have hkey : r.storageKey = l.key := congrArg Origin.key horigin
    exact ⟨l, hspent.known, horigin, congrArg Origin.size horigin, hkey ▸ hholds⟩
  have haccounted (o : String × Bytes) (ho : o ∈ b.objects) : (∃ r ∈ scene.archive.photos, r.storageKey = o.1) ∨
      (∃ t ∈ scene.threads, t.InProgressOn o.1) ∨ b.FailedToRemove o.1 := by
    rcases hsound.accounted o ho with ⟨_, hr, hkey⟩ | ⟨x, hx, hhandled⟩ | hfailed
    · obtain ⟨r, hr', rfl⟩ := List.mem_map.1 hr
      exact .inl ⟨r, hr', hkey⟩
    · obtain ⟨t, ht, hdoes⟩ := exists_of_forall₂ hthreads.flip hx
      exact .inr (.inl ⟨t, ht, Thread.Does.inProgressOn hdoes hhandled⟩)
    · exact .inr (.inr hfailed)
  refine ⟨b, hstorage, hshown, haccounted, fun hfinished hfailed key => ?_⟩
  simp only [List.mem_map]
  constructor
  · rintro ⟨o, ho, rfl⟩
    rcases haccounted o ho with hrow | ⟨t, ht, -, p, next, hask, -⟩ | hfailed'
    · exact hrow
    · exact absurd hask (hfinished t ht p next)
    · exact absurd hfailed' (hfailed o.1)
  · rintro ⟨r, hr, rfl⟩
    obtain ⟨l, -, -, -, hholds⟩ := hshown r hr
    exact ⟨_, (hholds l.file.data).2 rfl, rfl⟩

/-- Calls start with no rows and no objects and run side by side; any call to the bucket may fail. As long as no identifier
is given twice, no object is lost at any moment. -/
theorem no_object_lost (starts : List (ServiceCall × Tape)) (settings : BucketSettings) (faults : List (Nat × CallFault))
    (schedule : List Nat) (hids : (starts.flatMap fun s => s.2.ids).Nodup) :
    let scene := (Scene.start starts (.bucket ⟨settings, [], [], faults⟩)).run schedule
    ∃ b, scene.storage = .bucket b ∧ scene.LosesNoObject (starts.flatMap lotsOf) b := by
  have hd := distinct_lots hids
  exact ((Scene.start_isSound hd settings faults).run hd schedule).losesNoObject

/-- An event, and two uploads to it of a file of the same name. -/
def race : List (ServiceCall × Tape) :=
  let moments (n : Nat) := (List.range n).map fun k => (⟨.first, .ofMicros k⟩ : Moment)
  let upload (byte : UInt8) := ServiceCall.uploadPhotos (.ofNat 1) [⟨"a.jpg", "image/jpeg", [byte]⟩]
  [(.createEvent ⟨"Tour", .last, none⟩, ⟨moments 2, [.ofNat 1]⟩), (upload 0, ⟨moments 1, [.ofNat 2, .ofNat 3]⟩),
   (upload 1, ⟨moments 1, [.ofNat 4, .ofNat 5]⟩)]

/-- The event is created, then the uploads take turns: both store their object before one of them saves its row. -/
def turns : List Nat := List.replicate 4 0 ++ (List.replicate 6 [1, 2]).flatten

/-- One of two racing uploads is refused, and is about to remove its object while the photo of the other is there. -/
theorem race_loses_no_object :
    let scene := (Scene.start race (.bucket ⟨⟨"album", "", "", ""⟩, [], [], []⟩)).run turns
    (race.flatMap fun s => s.2.ids).Nodup ∧ scene.archive.photos.map PhotoRow.id = [.ofNat 3] ∧
      ∃ b, scene.storage = .bucket b ∧ b.objects.length = 2 ∧ scene.LosesNoObject (race.flatMap lotsOf) b := by
  intro scene
  have hids : (race.flatMap fun s => s.2.ids).Nodup := by decide +kernel
  obtain ⟨b, hb, hlost⟩ : ∃ b, scene.storage = .bucket b ∧ scene.LosesNoObject (race.flatMap lotsOf) b :=
    no_object_lost race ⟨"album", "", "", ""⟩ [] turns hids
  have hphotos : scene.archive.photos.map PhotoRow.id = [.ofNat 3] := by decide +kernel
  have hobjects : (match scene.storage with
      | .bucket b => b.objects.length
      | .folder _ => 0) = 2 := by decide +kernel
  rw [hb] at hobjects
  exact ⟨hids, hphotos, b, hb, hobjects, hlost⟩

end RaceAlbum
