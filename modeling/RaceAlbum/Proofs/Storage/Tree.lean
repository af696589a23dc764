import Mathlib.Data.List.Basic
import Mathlib.Logic.Function.Basic
import RaceAlbum.Proofs.Storage.Places
import RaceAlbum.Storage.Folder

/-!
# Trees of files as maps

`FileTree.find?` makes a map from paths to bytes of a tree. To set a file is one change of this map, and to take one out is
another. To make folders is none (`FoldersMade`).

A file that is to be removed counts as removed where a folder above it is missing. This is right because all that lies above
a file is a folder, which is part of what every write and removal keeps (`Sound`).
-/

namespace RaceAlbum

/-! ## Contents by their keys -/

section Contents

variable {κ : Type} [BEq κ] [LawfulBEq κ] [DecidableEq κ]

/-- The first content is found at its key, and the others are found elsewhere. -/
theorem lookup_cons_eq_ite (q r : κ) (old : Bytes) (contents : List (κ × Bytes)) :
    List.lookup q ((r, old) :: contents) = if q = r then some old else List.lookup q contents := by
  by_cases h : q = r
  · simp [h]
  · simp [List.lookup_cons, h, beq_false_of_ne]

/-- What is taken out is the only one that changes. -/
theorem lookup_without (p : κ) (contents : List (κ × Bytes)) (q : κ) :
    List.lookup q (contents.filter fun f => f.1 != p) = if q = p then none else List.lookup q contents := by
  induction contents with
  | nil => simp
  | cons content contents ih =>
    obtain ⟨r, old⟩ := content
    by_cases hr : r = p
    · rw [List.filter_cons_of_neg (by simp [hr]), ih, lookup_cons_eq_ite, hr]
      by_cases h : q = p
      · rw [if_pos h, if_pos h]
      · rw [if_neg h, if_neg h, if_neg h]
    · rw [List.filter_cons_of_pos (by simp [hr]), lookup_cons_eq_ite, lookup_cons_eq_ite, ih]
      by_cases h : q = r
      · rw [if_pos h, if_pos h, if_neg (h ▸ hr)]
      · rw [if_neg h, if_neg h]

end Contents

namespace FileTree

variable {t t₁ t' : FileTree} {disk : Disk} {p q : FilePath} {data : Bytes}

/-! ## Files -/

/-- The paths of the files. -/
def paths (t : FileTree) : List FilePath := t.files.map Prod.fst

/-- Where no bytes are found, there is no file. -/
theorem find?_eq_none_iff : t.find? p = none ↔ p ∉ t.paths := by
  rw [find?, paths, List.lookup_eq_none_iff]
  simp only [List.mem_map, not_exists, not_and, bne_iff_ne]
  exact ⟨fun h f hf hp => h f hf hp.symm, fun h f hf hp => h f hf hp.symm⟩

/-- A file that is set is the only one that changes. -/
theorem lookup_setFile (p : FilePath) (data : Bytes) (files : List (FilePath × Bytes)) (q : FilePath) :
    List.lookup q (setFile p data files) = if q = p then some data else List.lookup q files := by
  induction files with
  | nil => exact lookup_cons_eq_ite q p data []
  | cons file files ih =>
    obtain ⟨r, old⟩ := file
    by_cases hr : r = p
    · rw [setFile, if_pos hr, lookup_cons_eq_ite, lookup_cons_eq_ite, hr]
      split
      · rfl
      · rfl
    · rw [setFile, if_neg hr, lookup_cons_eq_ite, lookup_cons_eq_ite, ih]
      by_cases h : q = r
      · rw [if_pos h, if_pos h, if_neg (h ▸ hr)]
      · rw [if_neg h, if_neg h]

/-- The paths of the files, once one is set: its path is among them, and no other is new. -/
theorem paths_setFile (p : FilePath) (data : Bytes) (files : List (FilePath × Bytes)) :
    (setFile p data files).map Prod.fst =
      if p ∈ files.map Prod.fst then files.map Prod.fst else files.map Prod.fst ++ [p] := by
  induction files with
  | nil => simp [setFile]
  | cons file files ih =>
    obtain ⟨r, old⟩ := file
    by_cases hr : r = p
    · simp [setFile, hr]
    · have hp : p ≠ r := Ne.symm hr
      simp only [setFile, if_neg hr, List.map_cons, ih, List.mem_cons, hp, false_or]
      split <;> simp

/-! ## Folders -/

/-- One tree is another one with more folders, perhaps. -/
structure FoldersMade (t t' : FileTree) : Prop where
  files : t'.files = t.files
  root : t'.root = t.root
  folders : t.folders ⊆ t'.folders

namespace FoldersMade

/-- Where nothing is done, no folder was made. -/
theorem refl (t : FileTree) : FoldersMade t t := ⟨rfl, rfl, List.Subset.refl _⟩

/-- Folders that were made in two parts were made. -/
theorem trans (h : FoldersMade t t₁) (h' : FoldersMade t₁ t') : FoldersMade t t' :=
  ⟨h'.files.trans h.files, h'.root.trans h.root, fun _ hp => h'.folders (h.folders hp)⟩

end FoldersMade

/-- To make a folder makes no more than a folder. -/
theorem makeFolder_made (h : t.makeFolder disk p = .ok t') : FoldersMade t t' := by
  unfold makeFolder at h
  split at h
  · cases h
  split at h
  · cases h
  split at h
  · cases h
  · cases h
    exact ⟨rfl, rfl, List.subset_append_left _ _⟩

/-- Nor does it where the folder may be there already. -/
theorem ensureFolder_made (t : FileTree) (disk : Disk) (p : FilePath) : FoldersMade t (t.ensureFolder disk p).1 := by
  unfold ensureFolder
  split
  · exact makeFolder_made ‹_›
  · split
    · exact .refl t
    · exact .refl t

/-- Whatever comes of the making of folders, no file changes. -/
theorem makeFolders_made (t : FileTree) (disk : Disk) (calls : Nat) (reversed : List String) :
    FoldersMade t (t.makeFolders disk calls reversed).1 := by
  induction calls generalizing t reversed with
  | zero => exact .refl t
  | succ calls ih =>
    cases reversed with
    | nil => exact ensureFolder_made t disk []
    | cons name above =>
      have habove := ih t above
      unfold makeFolders
      dsimp only
      split
      · exact makeFolder_made ‹_›
      · split
        · rename_i hmade
          rw [hmade] at habove
          exact habove
        · rename_i hmade
          rw [hmade] at habove
          exact habove.trans (ensureFolder_made _ _ _)
      · split
        · exact .refl t
        · exact .refl t

/-! ## The walk to a path -/

/-- A folder is there if it is one of the folders. -/
theorem isFolder_iff : t.isFolder p = true ↔ p ∈ t.folders := List.contains_iff_mem

/-- If nothing stops the walk to a path, all that lies above it is a folder. -/
theorem above_of_stopAt? (h : t.stopAt? p = none) : ∀ q ∈ FilePath.above p, q ∈ t.folders := by
  have habove : t.stopAbove? p = none := by
    unfold stopAt? at h
    split at h
    · cases h
    split at h
    · cases h
    · assumption
  intro q hq
  have hstep := List.findSome?_eq_none_iff.1 habove q hq
  split at hstep
  · cases hstep
  split at hstep
  · exact isFolder_iff.1 ‹_›
  split at hstep
  · cases hstep
  · cases hstep

/-- What is missing on the walk to a path lies above it. -/
theorem exists_of_missing (h : t.stopAt? p = some .missing) : ∃ q ∈ FilePath.above p, q ∉ t.folders := by
  have habove : t.stopAbove? p = some .missing := by
    unfold stopAt? at h
    split at h
    · cases h
    split at h
    · rename_i hstop
      rw [hstop, h]
    · split at h
      · cases h
      · cases h
  obtain ⟨q, hq, hstep⟩ := List.exists_of_findSome?_eq_some habove
  refine ⟨q, hq, fun hfolder => ?_⟩
  rw [if_pos (isFolder_iff.2 hfolder)] at hstep
  split at hstep
  · cases hstep
  · cases hstep

/-! ## What is kept -/

/-- The files of a tree have paths of names, each has one path, and all that lies above a file is a folder. -/
structure Sound (t : FileTree) : Prop where
  names : ∀ p ∈ t.paths, ∀ name ∈ p, IsName name
  distinct : t.paths.Nodup
  above : ∀ p ∈ t.paths, ∀ q ∈ FilePath.above p, q ∈ t.folders

namespace Sound

/-- A tree without files and folders is sound. -/
theorem emptyAt (root : List String) : (FileTree.emptyAt root).Sound :=
  ⟨fun _ h => (List.not_mem_nil h).elim, List.nodup_nil, fun _ h => (List.not_mem_nil h).elim⟩

/-- A sound tree stays sound when folders are made. -/
theorem of_foldersMade (h : t.Sound) (hmade : FoldersMade t t') : t'.Sound := by
  have hpaths : t'.paths = t.paths := by rw [paths, hmade.files, paths]
  refine ⟨?_, ?_, ?_⟩
  · rw [hpaths]
    exact h.names
  · rw [hpaths]
    exact h.distinct
  · rw [hpaths]
    exact fun p hp q hq => hmade.folders (h.above p hp q hq)

/-- No file is at a path that a folder is missing above. -/
theorem find?_of_missing (h : t.Sound) (hstop : t.stopAt? p = some .missing) : t.find? p = none := by
  obtain ⟨q, hq, hnot⟩ := exists_of_missing hstop
  exact find?_eq_none_iff.2 fun hp => hnot (h.above p hp q hq)

end Sound

/-- A file that is set in a sound tree leaves it sound, if its path has names and folders above it. -/
theorem Sound.setFile (h : t.Sound) (hnames : ∀ name ∈ p, IsName name) (habove : ∀ q ∈ FilePath.above p, q ∈ t.folders) :
    Sound { t with files := FileTree.setFile p data t.files } := by
  have hpaths : paths { t with files := FileTree.setFile p data t.files } =
      if p ∈ t.paths then t.paths else t.paths ++ [p] := paths_setFile p data t.files
  have hmem : ∀ q ∈ paths { t with files := FileTree.setFile p data t.files }, q ∈ t.paths ∨ q = p := by
    intro q hq
    rw [hpaths] at hq
    split at hq
    · exact .inl hq
    · exact (List.mem_append.1 hq).imp_right List.mem_singleton.1
  refine ⟨fun q hq => ?_, ?_, fun q hq => ?_⟩
  · rcases hmem q hq with hq | rfl
    · exact h.names q hq
    · exact hnames
  · rw [hpaths]
    split
    · exact h.distinct
    · rename_i hp
      exact List.nodup_append.2 ⟨h.distinct, List.pairwise_singleton _ p, by
        rintro q hq r hr rfl
        exact hp (List.mem_singleton.1 hr ▸ hq)⟩
  · rcases hmem q hq with hq | rfl
    · exact h.above q hq
    · exact habove

/-- A sound tree stays sound if a file is taken out. -/
theorem Sound.without (h : t.Sound) (p : FilePath) : Sound { t with files := t.files.filter fun f => f.1 != p } := by
  have hsub : (paths { t with files := t.files.filter fun f => f.1 != p }).Sublist t.paths :=
    List.filter_sublist.map Prod.fst
  exact ⟨fun q hq => h.names q (hsub.subset hq), h.distinct.sublist hsub, fun q hq => h.above q (hsub.subset hq)⟩

end FileTree

end RaceAlbum
