import RaceAlbum.Proofs.Storage.Tree

/-!
# Writing and removing files

The writing of a file has four ends (`write_ends`): it is done; it is refused before the file is open, and no file changes; the
disk fails while the file is written, and the file holds what the disk took; or its folders are nested too deep, and nothing at
all changes. The last end is that of the paths which lie too far below a folder that is missing (`write_of_isMissingAbove`).

To remove a file is to take it out, or to fail and to change nothing (`remove_cases`).
-/

namespace RaceAlbum

/-! ## What lies above a path -/

namespace FilePath

variable {root : List String} {p q r : FilePath}

/-- What lies above a path is a part of the way to it. -/
theorem mem_above_iff : q ∈ above p ↔ q <+: p ∧ q.length < p.length := by
  rw [above, List.mem_map]
  constructor
  · rintro ⟨n, hn, rfl⟩
    have hn := List.mem_range.1 hn
    exact ⟨List.take_prefix n p, by rwa [List.length_take, Nat.min_eq_left (Nat.le_of_lt hn)]⟩
  · rintro ⟨hbegins, hlength⟩
    exact ⟨q.length, List.mem_range.2 hlength, (List.prefix_iff_eq_take.1 hbegins).symm⟩

/-- What lies above a part of the way lies above the path. -/
theorem mem_above_of_prefix (h : q ∈ above r) (hr : r <+: p) : q ∈ above p := by
  obtain ⟨hbegins, hlength⟩ := mem_above_iff.1 h
  exact mem_above_iff.2 ⟨hbegins.trans hr, Nat.lt_of_lt_of_le hlength hr.length_le⟩

/-- The bytes of a place are counted on from those before it. -/
theorem foldl_placeBytes (place : List String) (n : Nat) :
    place.foldl (fun n s => n + textBytes s + 1) n = n + placeBytes place := by
  induction place generalizing n with
  | nil => rfl
  | cons name place ih =>
    have hrest := ih (0 + textBytes name + 1)
    rw [placeBytes, List.foldl_cons, List.foldl_cons, ih, hrest]
    omega

/-- The bytes of two places, one below the other, are those of both. -/
theorem placeBytes_append (place below : List String) :
    placeBytes (place ++ below) = placeBytes place + placeBytes below := by
  rw [placeBytes, List.foldl_append, foldl_placeBytes]
  rfl

/-- No part of the way to a path is too long unless the path is. -/
theorem isLong_of_prefix (hr : r <+: p) (h : p.isLong root = false) : r.isLong root = false := by
  obtain ⟨rest, rfl⟩ := hr
  simp only [isLong, Bool.or_eq_false_iff, decide_eq_false_iff_not, placeBytes_append] at h ⊢
  exact ⟨h.1, by omega⟩

end FilePath

namespace FileTree

variable {t t' : FileTree} {disk : Disk} {p q r : FilePath} {data : Bytes} {calls : Nat} {reversed : List String}

/-! ## Where nothing is -/

/-- Nothing is at a path, all that lies above it can be walked through, and no name in it is too long. -/
structure IsFreeAt (t : FileTree) (p : FilePath) : Prop where
  noFile : t.find? p = none
  noFolder : p ∉ t.folders
  noFileAbove : ∀ q ∈ FilePath.above p, t.find? q = none
  names : ∀ name ∈ p, isLongName name = false

/-- A path whose names are not too long does not end in one that is. -/
theorem hasLongName_eq_false (h : ∀ name ∈ p, isLongName name = false) : hasLongName p = false := by
  unfold hasLongName
  cases hlast : p.getLast? with
  | none => rfl
  | some name => exact h name (List.mem_of_getLast? hlast)

/-- Nothing but a folder that is missing stops the walk to a path where nothing is. -/
theorem IsFreeAt.stopAbove? (h : t.IsFreeAt p) (hr : r <+: p) :
    t.stopAbove? r = none ∨ t.stopAbove? r = some .missing := by
  cases hstop : t.stopAbove? r with
  | none => exact .inl rfl
  | some f =>
    obtain ⟨q, hq, hstep⟩ := List.exists_of_findSome?_eq_some hstop
    have hq := FilePath.mem_above_of_prefix hq hr
    have hname : hasLongName q = false :=
      hasLongName_eq_false fun name hname => h.names name ((FilePath.mem_above_iff.1 hq).1.subset hname)
    have hfile : t.isFile q = false := by
      rw [isFile, h.noFileAbove q hq]
      rfl
    rw [hname, hfile] at hstep
    simp only [Bool.false_eq_true, if_false] at hstep
    split at hstep
    · cases hstep
    · exact .inr hstep.symm

/-- A folder that is missing stops the walk to a path where nothing is. -/
theorem IsFreeAt.stopAt? (h : t.IsFreeAt p) (hshort : p.isLong t.root = false) (hr : r <+: p) (hq : q ∈ FilePath.above r)
    (hmissing : q ∉ t.folders) : t.stopAt? r = some .missing := by
  have hnot : t.stopAt? r ≠ none := fun hstop => hmissing (above_of_stopAt? hstop q hq)
  have hlong := FilePath.isLong_of_prefix hr hshort
  have hname := hasLongName_eq_false fun name hname => h.names name (hr.subset hname)
  unfold FileTree.stopAt? at hnot ⊢
  rcases h.stopAbove? hr with hstop | hstop
  · simp [hlong, hstop, hname] at hnot
  · simp [hlong, hstop]

/-! ## Folders that are nested too deep -/

/-- A path lies more than a number of steps below a folder that is missing. -/
def IsMissingAbove (t : FileTree) (steps : Nat) (p : FilePath) : Prop :=
  ∃ q ∈ FilePath.above p, q ∉ t.folders ∧ q.length + steps < p.length

/-- A folder is not made for want of the folder above it exactly if the walk to it is stopped there. -/
theorem makeFolder_missing_iff : t.makeFolder disk p = .error .missing ↔ t.stopAt? p = some .missing := by
  unfold makeFolder
  split
  · rename_i f hstop
    rw [hstop, Except.error.injEq, Option.some.injEq]
  · rename_i hstop
    rw [hstop]
    refine iff_of_false (fun h => ?_) nofun
    split at h
    · cases h
    split at h
    · cases h
    · cases h

/-- One folder is never nested too deep. -/
theorem ensureFolder_ne_tooDeep : (t.ensureFolder disk p).2 ≠ some .tooDeep := by
  unfold ensureFolder
  split
  · exact nofun
  split
  · exact nofun
  · exact nofun

/-- Where each of the calls finds that the folder above its own is missing, they are used up before any folder is made. -/
theorem makeFolders_of_missing
    (h : ∀ n < calls, n < reversed.length ∧ t.stopAt? (reversed.drop n).reverse = some .missing) :
    t.makeFolders disk calls reversed = (t, some .tooDeep) := by
  induction calls generalizing reversed with
  | zero => rfl
  | succ calls ih =>
    cases reversed with
    | nil => exact absurd (h 0 calls.succ_pos).1 (Nat.not_lt_zero 0)
    | cons name above =>
      have hfirst : t.makeFolder disk (name :: above).reverse = .error .missing :=
        makeFolder_missing_iff.2 (h 0 calls.succ_pos).2
      have habove : t.makeFolders disk calls above = (t, some .tooDeep) := ih fun n hn =>
        ⟨Nat.lt_of_succ_lt_succ (h (n + 1) (Nat.succ_lt_succ hn)).1, (h (n + 1) (Nat.succ_lt_succ hn)).2⟩
      simp only [makeFolders, hfirst, habove]

/-- The calls are used up only where each of them finds that the folder above its own is missing. -/
theorem missing_of_tooDeep (h : (t.makeFolders disk calls reversed).2 = some .tooDeep) :
    ∀ n < calls, n < reversed.length ∧ t.stopAt? (reversed.drop n).reverse = some .missing := by
  induction calls generalizing reversed with
  | zero => exact fun n hn => absurd hn n.not_lt_zero
  | succ calls ih =>
    cases reversed with
    | nil => exact absurd h ensureFolder_ne_tooDeep
    | cons name above =>
      unfold makeFolders at h
      dsimp only at h
      split at h
      · cases h
      · rename_i hmissing
        split at h
        · rename_i hmade
          rintro (_ | n) hn
          · exact ⟨Nat.succ_pos _, makeFolder_missing_iff.1 hmissing⟩
          · obtain ⟨hlength, hstop⟩ := ih (by rw [hmade]; exact h) n (Nat.lt_of_succ_lt_succ hn)
            exact ⟨Nat.succ_lt_succ hlength, hstop⟩
        · exact absurd h ensureFolder_ne_tooDeep
      · split at h
        · cases h
        · cases h

/-- The folders of a path, read off its reversed steps. -/
theorem reverse_drop_eq_take {name : String} {above : List String} (h : p.reverse = name :: above) (n : Nat) :
    (above.drop n).reverse = p.take (p.length - (n + 1)) := by
  have hp : p = above.reverse ++ [name] := by rw [← List.reverse_cons, ← h, List.reverse_reverse]
  have hlength : p.length - (n + 1) = above.length - n := by simp [hp]
  rw [hlength, List.reverse_drop, hp, List.take_append_of_le_length (by simp)]

/-- Folders are nested too deep only if one is missing so far up, and none has been made then. -/
theorem isMissingAbove_of_tooDeep {name : String} {above : List String} (hp : p.reverse = name :: above)
    (h : (t.makeFolders disk nestedCallsMax above).2 = some .tooDeep) :
    t.makeFolders disk nestedCallsMax above = (t, some .tooDeep) ∧ t.IsMissingAbove nestedCallsMax p := by
  have hcalls := missing_of_tooDeep h
  refine ⟨makeFolders_of_missing hcalls, ?_⟩
  -- the innermost call finds the folder missing that is furthest up
  obtain ⟨-, hstop⟩ := hcalls (nestedCallsMax - 1) (by decide)
  obtain ⟨q, hq, hmissing⟩ := exists_of_missing hstop
  rw [reverse_drop_eq_take hp] at hq
  have hlength := (FilePath.mem_above_iff.1 hq).2
  rw [List.length_take] at hlength
  refine ⟨q, FilePath.mem_above_of_prefix hq (List.take_prefix _ p), hmissing, ?_⟩
  unfold nestedCallsMax at hlength ⊢
  omega

/-! ## Writing -/

/-- How the writing of a file ends: the tree that is left, and what stopped it. -/
inductive WriteEnds (t : FileTree) (disk : Disk) (p : FilePath) (data : Bytes) : FileTree → Option FileStop → Prop where
  /-- The file holds all bytes. -/
  | done {t' : FileTree} : t'.find? = Function.update t.find? p (some data) → WriteEnds t disk p data t' none
  /-- The file is not opened. -/
  | refused {t' : FileTree} (f : FileFailure) : t'.files = t.files → WriteEnds t disk p data t' (some (.failed f))
  /-- The file holds the bytes that the disk took. -/
  | cut {t' : FileTree} {n : Nat} {f : DiskFault} : disk.cut? = some (n, f) →
      t'.find? = Function.update t.find? p (some (data.take n)) →
      WriteEnds t disk p data t' (some (.failed ⟨.disk f, none⟩))
  /-- The folder of the file is not reached. -/
  | tooDeep : t.IsMissingAbove nestedCallsMax p → WriteEnds t disk p data t (some .tooDeep)

/-- The files of a tree in which a file was set. -/
theorem find?_setFile (ht : t'.files = setFile p data t.files) : t'.find? = Function.update t.find? p (some data) := by
  funext q
  rw [Function.update_apply, find?, find?, ht, lookup_setFile]

/-- Once its folders are made, a file is written or not opened, or the disk takes only a part of it. -/
theorem writeFile_ends {t₁ : FileTree} (hmade : FoldersMade t t₁) (h : t₁.Sound) (hnames : ∀ name ∈ p, IsName name)
    (disk : Disk) (data : Bytes) :
    (t₁.writeFile disk p data).1.Sound ∧ (t₁.writeFile disk p data).1.root = t.root ∧
      WriteEnds t disk p data (t₁.writeFile disk p data).1 (t₁.writeFile disk p data).2 := by
  unfold writeFile
  split
  · exact ⟨h, hmade.root, .refused _ hmade.files⟩
  · rename_i hstop
    have habove := above_of_stopAt? hstop
    split
    · exact ⟨h, hmade.root, .refused _ hmade.files⟩
    split
    · exact ⟨h, hmade.root, .refused _ hmade.files⟩
    split
    · rename_i hcut
      exact ⟨h.setFile hnames habove, hmade.root, .cut hcut (find?_setFile (by rw [hmade.files]))⟩
    · exact ⟨h.setFile hnames habove, hmade.root, .done (find?_setFile (by rw [hmade.files]))⟩

/-- Every writing of a file ends in one of the ways that are listed, and the tree stays sound. -/
theorem write_ends (h : t.Sound) (hnames : ∀ name ∈ p, IsName name) (disk : Disk) (data : Bytes) :
    (t.write disk p data).1.Sound ∧ (t.write disk p data).1.root = t.root ∧
      WriteEnds t disk p data (t.write disk p data).1 (t.write disk p data).2 := by
  unfold write
  cases hp : p.reverse with
  | nil => exact writeFile_ends (.refl t) h hnames disk data
  | cons name above =>
    have hmade := makeFolders_made t disk nestedCallsMax above
    dsimp only
    rcases hfolders : t.makeFolders disk nestedCallsMax above with ⟨t₁, stop⟩
    rw [hfolders] at hmade
    have hsound : t₁.Sound := h.of_foldersMade hmade
    cases stop with
    | none => exact writeFile_ends hmade hsound hnames disk data
    | some stop =>
      cases stop with
      | failed f => exact ⟨hsound, hmade.root, .refused f hmade.files⟩
      | tooDeep =>
        obtain ⟨hnone, hmissing⟩ := isMissingAbove_of_tooDeep hp (congrArg Prod.snd hfolders)
        obtain rfl : t₁ = t := congrArg Prod.fst (hfolders.symm.trans hnone)
        exact ⟨h, rfl, .tooDeep hmissing⟩

/-- To remove is to take the file out, or to fail and to change nothing. The tree stays sound. -/
theorem remove_cases (h : t.Sound) (disk : Disk) (p : FilePath) :
    (∃ t', t.remove disk p = .ok t' ∧ t'.Sound ∧ t'.root = t.root ∧ t'.find? = Function.update t.find? p none) ∨
      ∃ f, t.remove disk p = .error f := by
  unfold remove
  split
  · rename_i hstop
    refine .inl ⟨t, rfl, h, rfl, ?_⟩
    rw [← h.find?_of_missing hstop, Function.update_eq_self]
  · exact .inr ⟨_, rfl⟩
  split
  · exact .inr ⟨_, rfl⟩
  split
  · exact .inr ⟨_, rfl⟩
  · refine .inl ⟨_, rfl, h.without p, rfl, ?_⟩
    funext q
    rw [Function.update_apply, find?, find?, lookup_without]

end FileTree

end RaceAlbum
