import RaceAlbum.Proofs.Storage.FolderMap
import RaceAlbum.Proofs.Storage.PhotoKeys

/-!
# What a store holds

A store of either kind is a map from places to bytes: a folder keeps its files at paths, a bucket keeps its objects under their
keys. To store an object sets what is at the place of its key, and to remove one leaves nothing there; what fails leaves all
objects as they are (`put_changes`, `remove_changes`). The keys of two photos lead to different places
(`mark_eq_of_placeOf?`).
-/

namespace RaceAlbum

/-- A place in a store: the path of a file, or the key of an object in a bucket. -/
inductive Place where
  | path (p : FilePath)
  | key (k : String)
deriving DecidableEq

namespace Storage

/-- The place that a key leads to; none where the key is refused. -/
def placeOf? (key : String) : Storage → Option Place
  | folder s => (s.pathOf key).toOption.map .path
  | bucket _ => some (.key key)

/-- A key leads to a place in a folder where it leads to a path. -/
theorem placeOf?_folder_iff {s : FolderStore} {key : String} {place : Place} :
    (folder s).placeOf? key = some place ↔ ∃ p, s.pathOf key = .ok p ∧ place = .path p := by
  simp only [placeOf?]
  cases h : s.pathOf key with
  | error f => simp [Except.toOption]
  | ok p => simp [Except.toOption, eq_comm]

/-- The store as a map from places to bytes. -/
def contents : Storage → Place → Option Bytes
  | folder s, .path p => s.contents p
  | bucket s, .key k => List.lookup k s.objects
  | folder _, .key _ | bucket _, .path _ => none

/-- The bytes of the object of a key. -/
def object? (s : Storage) (key : String) : Option Bytes := (s.placeOf? key).bind s.contents

/-- What every change of a store keeps: the tree of a folder is sound. -/
def IsSound : Storage → Prop
  | folder s => s.tree.Sound
  | bucket _ => True

/-- A change of what is under a key, which comes to `r` and leaves the store `s'`: it succeeds and sets what is at the place of
the key, or it fails and leaves all objects as they are. -/
structure Changes (s : Storage) (key : String) (content : Option Bytes) (r : Except Failure Unit) (s' : Storage) : Prop where
  sound : s'.IsSound
  places : ∀ k, s'.placeOf? k = s.placeOf? k
  effect : (r = .ok () ∧ ∃ p, s.placeOf? key = some p ∧ s'.contents = Function.update s.contents p content) ∨
    (∃ f, r = .error f) ∧ s'.contents = s.contents

namespace Changes

variable {s s' : Storage} {key : String} {content : Option Bytes} {r : Except Failure Unit}

/-- A change that succeeds sets what is at the place of the key. -/
theorem of_ok (h : s.Changes key content r s') (hr : r = .ok ()) :
    ∃ p, s.placeOf? key = some p ∧ s'.contents = Function.update s.contents p content := by
  rcases h.effect with ⟨-, hset⟩ | ⟨⟨f, hf⟩, -⟩
  · exact hset
  · rw [hr] at hf
    cases hf

/-- A change that fails leaves all objects as they are. -/
theorem of_error {f : Failure} (h : s.Changes key content r s') (hr : r = .error f) : s'.contents = s.contents := by
  rcases h.effect with ⟨hok, -⟩ | ⟨-, hsame⟩
  · rw [hr] at hok
    cases hok
  · exact hsame

end Changes

variable {s : Storage}

/-- A step of a folder is a change of the store, if the disk does not fail while a file is written. -/
theorem changes_of_perform {s : FolderStore} (hs : s.tree.Sound) {disk : Disk} (hdisk : disk.cut? = none) (step : StoreStep) :
    (folder s).Changes step.key step.content (step.perform s disk).1 (folder (step.perform s disk).2) := by
  obtain ⟨hsound, hroot⟩ := FolderStore.perform_sound hs disk step
  have hplaces (k : String) : (folder (step.perform s disk).2).placeOf? k = (folder s).placeOf? k := by
    simp only [placeOf?, FolderStore.pathOf, hroot]
  refine ⟨hsound, hplaces, ?_⟩
  cases hpath : s.pathOf step.key with
  | error f =>
    rw [FolderStore.perform_of_error hpath]
    exact .inr ⟨⟨f, rfl⟩, rfl⟩
  | ok p =>
    obtain ⟨-, -, hends⟩ := FolderStore.perform_ends hs hpath disk
    generalize (step.perform s disk).1 = r, (step.perform s disk).2 = s' at hends ⊢
    cases hends with
    | done hcontents =>
      refine .inl ⟨rfl, .path p, placeOf?_folder_iff.2 ⟨p, hpath, rfl⟩, ?_⟩
      funext q
      cases q with
      | path q => simp [contents, hcontents, Function.update_apply]
      | key k => simp [contents]
    | refused cause hfiles =>
      refine .inr ⟨⟨_, rfl⟩, ?_⟩
      funext q
      cases q with
      | path q => simp only [contents, FolderStore.contents, FileTree.find?, hfiles]
      | key k => rfl
    | cut cause hdata hcut hcontents =>
      rw [hdisk] at hcut
      cases hcut
    | tooDeep => exact .inr ⟨⟨_, rfl⟩, rfl⟩

/-- A call to a bucket is a change of the store, if it changes the objects as the change says. -/
theorem changes_of_call (b : BucketStore) (c : BucketCall) (change : List (String × Bytes) → List (String × Bytes))
    {key : String} {content : Option Bytes}
    (hchange : ∀ k, List.lookup k (change b.objects) = if k = key then content else List.lookup k b.objects) :
    (bucket b).Changes key content (b.call c change).1 (bucket (b.call c change).2) := by
  refine ⟨trivial, fun _ => rfl, ?_⟩
  rcases b.call_cases c change with hok | ⟨⟨f, hf⟩, -⟩
  · rw [hok]
    refine .inl ⟨rfl, .key key, rfl, ?_⟩
    funext q
    cases q with
    | path q => simp [contents]
    | key k => simp [contents, Function.update_apply, hchange]
  · rw [hf]
    refine .inr ⟨⟨f, rfl⟩, ?_⟩
    funext q
    cases q <;> rfl

/-- To store an object sets the bytes under its key. -/
theorem put_changes (hs : s.IsSound) (key contentType : String) (data : Bytes) :
    s.Changes key (some data) (s.put key contentType data).1 (s.put key contentType data).2 := by
  cases s with
  | folder s => exact changes_of_perform hs rfl (.upload key data)
  | bucket b =>
    refine changes_of_call b (.put key data.length contentType) (fun os => BucketStore.without key os ++ [(key, data)])
      fun k => ?_
    rw [List.lookup_append, BucketStore.without, lookup_without]
    by_cases h : k = key <;> simp [h, lookup_cons_eq_ite]

/-- To remove an object leaves nothing under its key. -/
theorem remove_changes (hs : s.IsSound) (key : String) : s.Changes key none (s.remove key).1 (s.remove key).2 := by
  cases s with
  | folder s => exact changes_of_perform hs rfl (.delete key)
  | bucket b => exact changes_of_call b (.delete key) (BucketStore.without key) (lookup_without key b.objects)

/-- Keys of photos that lead to one place have the same fresh identifier. -/
theorem mark_eq_of_placeOf? {eventId eventId' mark mark' : Uuid} {filename filename' : String} {p : Place}
    (h : s.placeOf? (photoKey eventId mark filename) = some p)
    (h' : s.placeOf? (photoKey eventId' mark' filename') = some p) : mark = mark' := by
  cases s with
  | folder s =>
    obtain ⟨q, hq, rfl⟩ := placeOf?_folder_iff.1 h
    obtain ⟨q', hq', hplace⟩ := placeOf?_folder_iff.1 h'
    rw [← Place.path.inj hplace] at hq'
    exact mark_eq_of_ofKey? (FolderStore.ofKey?_of_pathOf hq) (FolderStore.ofKey?_of_pathOf hq')
  | bucket b =>
    cases h
    have hkey : photoKey eventId' mark' filename' = photoKey eventId mark filename :=
      Place.key.inj (Option.some.inj h')
    exact photoKey_mark_inj hkey.symm

end Storage

end RaceAlbum
