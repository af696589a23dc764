import RaceAlbum.Proofs.Archive.Batches
import RaceAlbum.Proofs.Archive.Constrained
import RaceAlbum.Proofs.Service.Scene
import RaceAlbum.Proofs.Service.Session

/-!
# What a classification has recorded

A classification that succeeds has stored all that was seen. Whether it has marked its photo is another matter: nobody looks
whether there is a row to mark, and only a cyclist that refers to the photo asks for one. So the photo is marked if it is
there (`classification_records`), and a classification without cyclists of a photo that is gone succeeds and leaves nothing.
A service looks the photo up before, but it may be deleted in between (`gone_photo_classified`).
-/

namespace RaceAlbum

/-- The row says of a photo how far it is processed. -/
structure PhotoRow.IsMarkedAs (r p : PhotoRow) : Prop where
  id : r.id = p.id
  status : r.status = p.status
  reason : r.unclassifiedReason = p.unclassifiedReason
  processedAt : r.processedAt = p.processedAt

/-- A cyclist, its plate and its colours are stored. -/
structure Bundle.IsStoredIn (b : Bundle) (a : Archive) : Prop where
  cyclist : .ofEntity b.cyclist ∈ a.cyclists
  plate : ∀ p ∈ b.plate, .ofEntity p ∈ a.plates
  colors : ∀ c ∈ b.colors, .ofEntity c ∈ a.colors

namespace Archive

variable {a a' : Archive} {p : PhotoRow} {bs : List Bundle}

/-- The rows that a classification adds are there after it. -/
theorem isStoredIn_classified {b : Bundle} (hb : b ∈ bs) : b.IsStoredIn (a.classified p bs) where
  cyclist := List.mem_append_right _ (List.mem_map_of_mem hb)
  plate := by
    intro q hq
    have hmem : q ∈ bs.filterMap Bundle.plate := List.mem_filterMap.2 ⟨b, hb, hq⟩
    exact List.mem_append_right _ (List.mem_map_of_mem hmem)
  colors := by
    intro c hc
    have hmem : c ∈ bs.flatMap Bundle.colors := List.mem_flatMap.2 ⟨b, hb, hc⟩
    exact List.mem_append_right _ (List.mem_map_of_mem hmem)

/-- A photo is marked by its classification if it is there. -/
theorem exists_marked_iff : (∃ r ∈ (a.classified p bs).photos, r.IsMarkedAs p) ↔ ∃ r ∈ a.photos, r.id = p.id := by
  have hphotos : (a.classified p bs).photos = a.photos.map (mark p.id p.status p.unclassifiedReason p.processedAt) := rfl
  rw [hphotos]
  constructor
  · rintro ⟨r, hr, hmarked⟩
    obtain ⟨s, hs, rfl⟩ := List.mem_map.1 hr
    have hid := hmarked.id
    rw [mark_id] at hid
    exact ⟨s, hs, hid⟩
  · rintro ⟨s, hs, hid⟩
    refine ⟨_, List.mem_map_of_mem hs, ?_⟩
    rw [mark, if_pos hid]
    exact ⟨hid, rfl, rfl, rfl⟩

/-- Cyclists are added only where their photos are. -/
theorem addCyclists_made (h : Made a (bs.map fun b a => a.addCyclist (.ofEntity b.cyclist)) a') :
    ∀ b ∈ bs, ∃ r ∈ a.photos, r.id = b.cyclist.photoId := by
  induction bs generalizing a with
  | nil =>
    intro b hb
    cases hb
  | cons b bs ih =>
    rw [List.map_cons, made_cons_iff] at h
    obtain ⟨a₁, hadd, hrest⟩ := h
    obtain ⟨rfl, -, hphoto⟩ := addCyclist_ok hadd
    intro c hc
    rcases List.mem_cons.1 hc with rfl | hc
    · exact hasPhoto_iff.1 hphoto
    · exact ih hrest c hc

/-- A cyclist of a classification that is made refers to a photo that is there. -/
theorem exists_photo_of_made (h : Made a (classification p bs) a') {b : Bundle} (hb : b ∈ bs) :
    ∃ r ∈ a.photos, r.id = b.cyclist.photoId := by
  rw [classification_eq, made_cons_iff] at h
  obtain ⟨a₁, hmark, h⟩ := h
  obtain ⟨a₃, h, -⟩ := made_append_iff.1 h
  obtain ⟨a₂, hcyclists, -⟩ := made_append_iff.1 h
  obtain ⟨r, hr, hid⟩ := addCyclists_made hcyclists b hb
  rw [markPhoto_ok hmark] at hr
  obtain ⟨s, hs, rfl⟩ := List.mem_map.1 hr
  rw [mark_id] at hid
  exact ⟨s, hs, hid⟩

/-- To record that nothing was seen on a photo that is not there is to do nothing, and it succeeds. -/
theorem saveClassification_of_missing (h : ∀ r ∈ a.photos, r.id ≠ p.id) :
    a.saveClassification p [] = (.ok (), a) := by
  have hmissing : a.hasPhoto p.id = false := by
    rw [← Bool.not_eq_true, hasPhoto_iff]
    rintro ⟨r, hr, hid⟩
    exact h r hr hid
  have hsame : a.photos.map (mark p.id p.status p.unclassifiedReason p.processedAt) = a.photos := by
    refine (List.map_congr_left fun r hr => ?_).trans (List.map_id _)
    exact if_neg (h r hr)
  have hmark : a.markPhoto p.id p.status p.unclassifiedReason p.processedAt = .ok a := by
    unfold markPhoto
    rw [hmissing]
    exact congrArg (fun photos => Except.ok { a with photos := photos }) hsame
  exact transact_eq_ok_iff.2 (.cons hmark (.nil a))

/-- What a classification has recorded when it succeeds. Every cyclist, plate and colour is stored, and the photo has a row
with the new marks if it had a row before, which it had if one of the cyclists refers to it. Where the photo has no row, a
classification without cyclists succeeds and changes nothing. -/
theorem classification_records (a : Archive) (p : PhotoRow) :
    (∀ bs a', a.saveClassification p bs = (.ok (), a') →
      (∀ b ∈ bs, b.IsStoredIn a') ∧
      ((∃ r ∈ a'.photos, r.IsMarkedAs p) ↔ ∃ r ∈ a.photos, r.id = p.id) ∧
      ((∃ b ∈ bs, b.cyclist.photoId = p.id) → ∃ r ∈ a'.photos, r.IsMarkedAs p)) ∧
    ((∀ r ∈ a.photos, r.id ≠ p.id) → a.saveClassification p [] = (.ok (), a)) := by
  refine ⟨?_, saveClassification_of_missing⟩
  intro bs a' h
  have hmade : Made a (classification p bs) a' := transact_eq_ok_iff.1 h
  obtain rfl := classification_made hmade
  refine ⟨fun b hb => isStoredIn_classified hb, exists_marked_iff, ?_⟩
  rintro ⟨b, hb, hphoto⟩
  rw [exists_marked_iff, ← hphoto]
  exact exists_photo_of_made hmade hb

/-- A cyclist with a plate and a colour is recorded on the second photo of the small album, which had none. -/
theorem smallAlbum_classification_records :
    let p : PhotoRow := (smallAlbum.photos.drop 1).head (by decide +kernel)
    let now : Stamp := .ofUtc ⟨.first, .ofParts 16 0 0 0⟩
    let b : Bundle := ⟨⟨.ofNat 20, p.id, [], .zero, now⟩, some ⟨.ofNat 21, .ofNat 20, 42, none, false, none, now⟩,
      [⟨.ofNat 22, .ofNat 20, .bike, "red", "#ff0000", .zero, now⟩]⟩
    ∃ a', smallAlbum.saveClassification p [b] = (.ok (), a') ∧ b.IsStoredIn a' ∧ ∃ r ∈ a'.photos, r.IsMarkedAs p := by
  intro p now b
  have hok : (smallAlbum.saveClassification p [b]).1.isOk = true := by decide +kernel
  have hsaved : smallAlbum.saveClassification p [b] = (.ok (), (smallAlbum.saveClassification p [b]).2) := by
    refine Prod.ext ?_ rfl
    cases hr : (smallAlbum.saveClassification p [b]).1 with
    | ok u => rfl
    | error f =>
      rw [hr] at hok
      cases hok
  obtain ⟨hstored, -, hmarked⟩ := (classification_records smallAlbum p).1 [b] _ hsaved
  exact ⟨_, hsaved, hstored b (by simp), hmarked ⟨b, by simp, rfl⟩⟩

end Archive

/-- A classification of a photo on which nothing was seen, and the deletion of this photo. -/
def goneScene : Scene where
  threads :=
    [.start (.classify (.ofNat 4) [], ⟨[⟨.first, .ofParts 16 0 0 0⟩], []⟩), .start (.deletePhoto (.ofNat 4), ⟨[], []⟩)]
  archive := .smallAlbum
  storage := smallStorage

/-- The classification finds the photo, the photo is deleted, and the classification is recorded. Both calls succeed, and
there is no row that says that the photo is classified. -/
theorem gone_photo_classified :
    let final := goneScene.run [0, 1, 1, 1, 0, 0]
    (final.threads.length = 2 ∧ ∀ t ∈ final.threads, t.succeeded = true) ∧ ∀ r ∈ final.archive.photos, r.id ≠ .ofNat 4 := by
  decide +kernel

end RaceAlbum
