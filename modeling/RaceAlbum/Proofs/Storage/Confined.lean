import RaceAlbum.Proofs.Storage.FolderMap
import RaceAlbum.Proofs.Storage.PhotoKeys

/-!
# Photos lie apart from each other

Whatever the name of its file, the object of a photo lies strictly below the folder of the photos of its event, and no object of
another photo is at its path, above it or below it (`photo_paths_apart`). A slash in the extension only leads further down: the
name in front of it begins with the fresh identifier and ends in a point and what follows it.
-/

namespace RaceAlbum

/-- Paths of two files that can be kept together: they differ, and neither file would have to be a folder of the other. -/
structure FilePath.Apart (p q : FilePath) : Prop where
  ne : p ≠ q
  notAbove : p ∉ FilePath.above q
  notBelow : q ∉ FilePath.above p

/-- Paths are apart if neither is a part of the way to the other. -/
theorem FilePath.Apart.of_notOnWay {p q : FilePath} (h : ¬p <+: q) (h' : ¬q <+: p) : p.Apart q where
  ne := by
    rintro rfl
    exact h List.prefix_rfl
  notAbove habove := h (FilePath.mem_above_iff.1 habove).1
  notBelow habove := h' (FilePath.mem_above_iff.1 habove).1

/-- The key of a photo has no zero byte if the name of its file has none. -/
theorem noZero_photoKey (eventId mark : Uuid) {filename : String} (h : '\x00' ∉ filename.toList) :
    '\x00' ∉ (photoKey eventId mark filename).toList := by
  have hid (u : Uuid) : '\x00' ∉ u.chars := u.not_mem_chars (by decide) (by decide)
  have hext : '\x00' ∉ extensionOf filename := not_mem_extensionOf_of (by decide) h
  rw [photoKey_toList]
  simp [hid, hext]

/-- The key of a photo is accepted below every root, and leads to a path of names below the folder of the photos of its event:
to a name that begins with the fresh identifier, or further down from it. -/
theorem pathOf_photoKey (s : FolderStore) (eventId mark : Uuid) {filename : String} (h : '\x00' ∉ filename.toList) :
    ∃ first names, s.pathOf (photoKey eventId mark filename) =
        .ok (photosFolder eventId ++ String.ofList (mark.chars ++ '.' :: first) :: names) ∧
      ∀ name ∈ photosFolder eventId ++ String.ofList (mark.chars ++ '.' :: first) :: names, IsName name := by
  obtain ⟨first, names, hpath⟩ := ofKey?_photoKey s.tree.root eventId mark filename
  have hzero := noZero_photoKey eventId mark h
  exact ⟨first, names, FolderStore.pathOf_of_some hzero hpath, FilePath.names_of_ofKey? hpath⟩

/-- The key of a photo is that of its event and its fresh identifier, and ends in an extension that is not empty and has no
point in it. Below every root it leads to a path of names that lies strictly below the folder of the photos of the event; and
the key of any photo with another fresh identifier leads to a path apart from it. -/
theorem photo_paths_apart (s : FolderStore) (eventId mark : Uuid) (filename : String) (hname : '\x00' ∉ filename.toList) :
    (∃ ext : List Char, ext ≠ [] ∧ '.' ∉ ext ∧
      photoKey eventId mark filename =
        "events/" ++ eventId.text ++ "/photos/" ++ mark.text ++ "." ++ String.ofList ext) ∧
    ∃ p, s.pathOf (photoKey eventId mark filename) = .ok p ∧ (∀ name ∈ p, IsName name) ∧
      (∃ below, below ≠ [] ∧ p = photosFolder eventId ++ below) ∧
      ∀ (eventId' mark' : Uuid) (filename' : String), '\x00' ∉ filename'.toList → mark' ≠ mark →
        ∃ p', s.pathOf (photoKey eventId' mark' filename') = .ok p' ∧ p.Apart p' := by
  refine ⟨⟨extensionOf filename, extensionOf_ne_nil filename, not_mem_extensionOf filename, rfl⟩, ?_⟩
  obtain ⟨first, names, hpath, hnames⟩ := pathOf_photoKey s eventId mark hname
  refine ⟨_, hpath, hnames, ⟨_, List.cons_ne_nil _ _, rfl⟩, fun eventId' mark' filename' hname' hmark => ?_⟩
  obtain ⟨first', names', hpath', -⟩ := pathOf_photoKey s eventId' mark' hname'
  refine ⟨_, hpath', .of_notOnWay ?_ ?_⟩
  · intro hway
    exact hmark (mark_eq_of_onWay hway).symm
  · intro hway
    exact hmark (mark_eq_of_onWay hway)

/-- An extension of many slashes leads down to a path that is apart from the one of a name that ends in a point. -/
theorem slashes_stay_apart :
    let s : FolderStore := ⟨.emptyAt temporaryRoot, ""⟩
    let p := ["events", (Uuid.ofNat 1).text, "photos", (Uuid.ofNat 2).text ++ ".i̇", "σας"]
    let p' := ["events", (Uuid.ofNat 1).text, "photos", (Uuid.ofNat 3).text ++ ".jpg"]
    Uuid.ofNat 3 ≠ Uuid.ofNat 2 ∧
    s.pathOf (photoKey (.ofNat 1) (.ofNat 2) "/../a.b/..İ///ΣΑΣ/") = .ok p ∧
    s.pathOf (photoKey (.ofNat 1) (.ofNat 3) "../..") = .ok p' ∧ FilePath.Apart p p' := by
  intro s p p'
  have hpath : s.pathOf (photoKey (.ofNat 1) (.ofNat 2) "/../a.b/..İ///ΣΑΣ/") = .ok p :=
    FolderStore.pathOf_of_some (by decide +kernel) (by decide +kernel)
  have hpath' : s.pathOf (photoKey (.ofNat 1) (.ofNat 3) "../..") = .ok p' :=
    FolderStore.pathOf_of_some (by decide +kernel) (by decide +kernel)
  have hmarks : Uuid.ofNat 3 ≠ Uuid.ofNat 2 := by decide
  obtain ⟨-, q, hq, -, -, hapart⟩ := photo_paths_apart s (.ofNat 1) (.ofNat 2) "/../a.b/..İ///ΣΑΣ/" (by decide)
  obtain ⟨q', hq', happart⟩ := hapart (.ofNat 1) (.ofNat 3) "../.." (by decide) hmarks
  cases hpath.symm.trans hq
  cases hpath'.symm.trans hq'
  exact ⟨hmarks, hpath, hpath', happart⟩

end RaceAlbum
