import RaceAlbum.Proofs.Archive.Constraints

/-!
# Saving a photo

To save a photo adds its row or puts it in the place of the row of its identifier. There are two reasons to refuse that, the
file name and the event (`storePhoto_eq`), and where the tables keep their constraints they exclude each other. A photo whose
stamps are of universal time is read back as it was saved (`savePhoto_reports_exactly`).
-/

namespace RaceAlbum

/-! ## Photos of universal time -/

/-- All stamps of the photo are of universal time. -/
def Photo.IsUtc (p : Photo) : Prop := ∀ s ∈ p.stamps, s.offset = some .utc

instance (p : Photo) : Decidable p.IsUtc := inferInstanceAs (Decidable (∀ s ∈ p.stamps, s.offset = some .utc))

namespace Stamp

/-- A stamp of universal time is the one of its wall clock. -/
theorem ofUtc_wall {s : Stamp} (h : s.offset = some .utc) : ofUtc s.wall = s := by
  rw [ofUtc, ← h]

/-- A stamp of universal time has its offset. -/
theorem assumeUtc_eq {s : Stamp} (h : s.offset = some .utc) : s.assumeUtc = s := by
  rw [assumeUtc, h, Option.getD_some, ← h]

end Stamp

namespace Photo.IsUtc

variable {p : Photo}

/-- What keeps the stamps of universal time keeps the stamps of the photo. -/
theorem stamps_eq {f : Stamp → Stamp} (h : p.IsUtc) (hf : ∀ {s : Stamp}, s.offset = some .utc → f s = s) :
    p.capturedAt.map f = p.capturedAt ∧ f p.uploadedAt = p.uploadedAt ∧ p.processedAt.map f = p.processedAt := by
  have hmap {s? : Option Stamp} (hs : ∀ s ∈ s?, s ∈ p.stamps) : s?.map f = s? :=
    (Option.map_congr fun s hmem => hf (h s (hs s hmem))).trans Option.map_id'
  refine ⟨hmap fun s hs => ?_, hf (h _ List.mem_cons_self), hmap fun s hs => ?_⟩
  · simp [Photo.stamps, Option.mem_def.1 hs]
  · simp [Photo.stamps, Option.mem_def.1 hs]

/-- The photo is read back from its row. -/
theorem entity_ofEntity (h : p.IsUtc) : (PhotoRow.ofEntity p).entity = p := by
  obtain ⟨hcaptured, huploaded, hprocessed⟩ := h.stamps_eq (f := fun s => .ofUtc s.wall) Stamp.ofUtc_wall
  simp only [PhotoRow.entity, PhotoRow.ofEntity, Option.map_map, Function.comp_def, hcaptured, huploaded, hprocessed]

/-- No stamp of the photo is without an offset. -/
theorem assumeUtc_eq (h : p.IsUtc) : p.assumeUtc = p := by
  obtain ⟨hcaptured, huploaded, hprocessed⟩ := h.stamps_eq Stamp.assumeUtc_eq
  rw [Photo.assumeUtc, hcaptured, huploaded, hprocessed]

end Photo.IsUtc

/-! ## The statement -/

namespace Archive

variable {a a' : Archive} {p : Photo}

/-- The file name of the photo is that of another photo of its event. -/
def TakesFilename (a : Archive) (p : Photo) : Prop :=
  ∃ r ∈ a.photos, r.id ≠ p.id ∧ r.eventId = p.eventId ∧ r.filename = p.filename

theorem hasFilename_iff : a.hasFilename (.ofEntity p) = true ↔ a.TakesFilename p := by
  simp [hasFilename, TakesFilename, PhotoRow.ofEntity, and_assoc]

/-- Where no change of photos is forbidden and the numbers fit, a photo is refused for its file name or for its event, and else
its row is put in its place. -/
theorem storePhoto_eq (hallowed : a.isBlocked .photos (if a.hasPhoto p.id then .update else .insert) = false)
    (hintegers : (PhotoRow.ofEntity p).integers.all isInt64 = true) :
    a.storePhoto p =
      if a.hasFilename (.ofEntity p) then .error (.ofRule .duplicateFilename)
      else if a.hasEvent p.eventId then .ok { a with photos := upsert PhotoRow.id (.ofEntity p) a.photos }
      else .error (.violation .foreignKey) := by
  -- what both changes of the table come to once they are allowed
  have hchecked {b : Archive} : Except.mapError foresee (do
      ensure (!a.hasFilename (.ofEntity p)) (.violation .duplicateFilename)
      ensure (a.hasEvent p.eventId) (.violation .foreignKey)
      return b) =
        if a.hasFilename (.ofEntity p) then .error (.ofRule .duplicateFilename)
        else if a.hasEvent p.eventId then .ok b
        else .error (.violation .foreignKey) := by
    cases a.hasFilename (.ofEntity p) <;> cases a.hasEvent p.eventId <;> rfl
  unfold storePhoto savePhoto ensureIntegers upsert ensureAllowed
  rw [ensure_bind_of hintegers]
  cases hfind : a.photos.find? fun s => s.id == (PhotoRow.ofEntity p).id with
  | some stored =>
    have hid : stored.id = p.id := by simpa [PhotoRow.ofEntity] using List.find?_some hfind
    have hthere : a.hasPhoto p.id = true := hasPhoto_iff.2 ⟨stored, List.mem_of_find?_eq_some hfind, hid⟩
    rw [hthere, if_pos rfl] at hallowed
    dsimp only
    rw [ensure_bind_of (by rw [hallowed, Bool.and_false]; rfl)]
    exact hchecked
  | none =>
    have hmissing : a.hasPhoto p.id = false := by
      simpa [hasPhoto, PhotoRow.ofEntity] using hfind
    rw [hmissing, if_neg Bool.false_ne_true] at hallowed
    dsimp only
    rw [ensure_bind_of (by rw [hallowed]; rfl)]
    exact hchecked

/-- What an archive is after a photo was saved: the photo is found as it was saved, its row is added or has taken the place of
the row of its identifier, and there is no other difference. -/
structure HasSaved (a' : Archive) (p : Photo) (a : Archive) : Prop where
  found : answer (.findPhoto p.id) a' = (.ok (some p), a')
  photos : ((∀ r ∈ a.photos, r.id ≠ p.id) ∧ a'.photos = a.photos ++ [.ofEntity p]) ∨
    ∃ before stored after, a.photos = before ++ stored :: after ∧ stored.id = p.id ∧
      a'.photos = before ++ .ofEntity p :: after
  rest : a' = { a with photos := a'.photos }

/-- Where identifiers are unique, a photo of universal time is saved by putting its row in its place. -/
theorem hasSaved_upsert (ha : a.Constrained) (hutc : p.IsUtc) :
    HasSaved { a with photos := upsert PhotoRow.id (.ofEntity p) a.photos } p a := by
  refine ⟨?_, ?_, rfl⟩
  · have hfound : photo? { a with photos := upsert PhotoRow.id (.ofEntity p) a.photos } p.id = some (.ofEntity p) :=
      (find?_key_iff (nodup_keys_upsert ha.photoIds)).2 ⟨mem_upsert.2 (.inl rfl), rfl⟩
    change (Except.ok ((photo? _ p.id).map PhotoRow.entity), _) = _
    rw [hfound, Option.map_some, hutc.entity_ofEntity]
    rfl
  · by_cases hnew : ∀ r ∈ a.photos, r.id ≠ p.id
    · exact .inl ⟨hnew, upsert_of_new hnew⟩
    · obtain ⟨stored, hstored, hid⟩ : ∃ r ∈ a.photos, r.id = p.id := by simpa using hnew
      obtain ⟨before, after, hsplit⟩ := List.append_of_mem hstored
      have hkeys := ha.photoIds
      rw [hsplit] at hkeys
      refine .inr ⟨before, stored, after, hsplit, hid, ?_⟩
      rw [hsplit]
      exact upsert_between hkeys hid.symm

/-- Saving a photo reports duplicates exactly. Where the tables keep their constraints and no change of photos is forbidden, it
is the duplicate that is reported if and only if another photo of the event has the file name, and the reference if and only
if the event is not there. Nothing else is reported, nothing changes where something is, and otherwise the photo is saved. -/
theorem savePhoto_reports_exactly {r : Except Failure Photo} (ha : a.Constrained) (hutc : p.IsUtc)
    (hintegers : (PhotoRow.ofEntity p).integers.all isInt64 = true) (hinsert : a.isBlocked .photos .insert = false)
    (hupdate : a.isBlocked .photos .update = false) (h : answer (.savePhoto p) a = (r, a')) :
    (r = .error (.ofRule .duplicateFilename) ↔ a.TakesFilename p) ∧
    (r = .error (.violation .foreignKey) ↔ ∀ e ∈ a.events, e.id ≠ p.eventId) ∧
    (∀ f, r = .error f → (f = .ofRule .duplicateFilename ∨ f = .violation .foreignKey) ∧ a' = a) ∧
    (¬a.TakesFilename p → (∃ e ∈ a.events, e.id = p.eventId) → r = .ok p ∧ a'.HasSaved p a ∧ a'.Constrained) := by
  have hallowed : a.isBlocked .photos (if a.hasPhoto p.id then .update else .insert) = false := by
    split <;> assumption
  have hstore := storePhoto_eq hallowed hintegers
  have hevent : (∀ e ∈ a.events, e.id ≠ p.eventId) ↔ ¬∃ e ∈ a.events, e.id = p.eventId := by simp
  rw [← hasFilename_iff, hevent, ← hasEvent_iff]
  by_cases htaken : a.hasFilename (.ofEntity p) = true
  · rw [if_pos htaken] at hstore
    obtain ⟨rfl, rfl⟩ := Prod.mk.inj ((answer_savePhoto_of_error hstore).symm.trans h)
    -- the event is there, since a photo of it is
    have hthere : a.hasEvent p.eventId = true := by
      obtain ⟨s, hs, -, heventId, -⟩ := hasFilename_iff.1 htaken
      exact hasEvent_iff.2 (heventId ▸ List.mem_map.1 (ha.photoEvent s hs))
    refine ⟨iff_of_true rfl htaken, iff_of_false nofun (not_not_intro hthere), ?_, fun hfree => absurd htaken hfree⟩
    rintro f ⟨⟩
    exact ⟨.inl rfl, rfl⟩
  rw [if_neg htaken] at hstore
  by_cases hthere : a.hasEvent p.eventId = true
  · rw [if_pos hthere] at hstore
    obtain ⟨rfl, rfl⟩ := Prod.mk.inj ((answer_savePhoto_of_ok hstore).symm.trans h)
    refine ⟨iff_of_false nofun htaken, iff_of_false nofun (not_not_intro hthere), nofun, fun _ _ => ⟨?_, ?_, ?_⟩⟩
    · exact congrArg Except.ok hutc.assumeUtc_eq
    · exact hasSaved_upsert ha hutc
    · exact ha.storePhoto hstore
  · rw [if_neg hthere] at hstore
    obtain ⟨rfl, rfl⟩ := Prod.mk.inj ((answer_savePhoto_of_error hstore).symm.trans h)
    refine ⟨iff_of_false nofun htaken, iff_of_true rfl hthere, ?_, fun _ hevent => absurd hevent hthere⟩
    rintro f ⟨⟩
    exact ⟨.inr rfl, rfl⟩

/-- A photo of an event, of universal time. -/
def utcPhoto (id eventId : Nat) (filename : String) : Photo :=
  ⟨.ofNat id, .ofNat eventId, filename, filename, 1, "image/jpeg", none, none, .pending, none, none,
    .ofUtc ⟨.last, .midnight⟩, none⟩

/-- In the small album the name of a second photo is reported, and so is an event that is not there. The first photo, which
shows two cyclists, is replaced under another name, and the name of a photo of another event is free. -/
theorem smallAlbum_savePhoto_reports :
    let saved (p : Photo) := answer (.savePhoto p) smallAlbum
    saved (utcPhoto 30 1 "b.jpg") = (.error (.ofRule .duplicateFilename), smallAlbum) ∧
    saved (utcPhoto 30 99 "b.jpg") = (.error (.violation .foreignKey), smallAlbum) ∧
    ((saved (utcPhoto 3 1 "z.jpg")).1 = .ok (utcPhoto 3 1 "z.jpg") ∧
      (saved (utcPhoto 3 1 "z.jpg")).2.HasSaved (utcPhoto 3 1 "z.jpg") smallAlbum ∧
      (saved (utcPhoto 3 1 "z.jpg")).2.photos.map PhotoRow.filename = ["z.jpg", "b.jpg", "c.jpg", "a.jpg"]) ∧
    (saved (utcPhoto 30 2 "b.jpg")).1 = .ok (utcPhoto 30 2 "b.jpg") := by
  intro saved
  have ha : smallAlbum.Constrained := by decide +kernel
  have hreports (id eventId : Nat) (filename : String) :=
    @savePhoto_reports_exactly smallAlbum (saved (utcPhoto id eventId filename)).2 (utcPhoto id eventId filename)
      (saved (utcPhoto id eventId filename)).1 ha (by simp [Photo.IsUtc, Photo.stamps, utcPhoto, Stamp.ofUtc]) rfl rfl rfl rfl
  obtain ⟨hnamed, -, hkept, -⟩ := hreports 30 1 "b.jpg"
  obtain ⟨-, hreferred, hkept', -⟩ := hreports 30 99 "b.jpg"
  obtain ⟨-, -, -, hreplaced⟩ := hreports 3 1 "z.jpg"
  obtain ⟨-, -, -, hadded⟩ := hreports 30 2 "b.jpg"
  have hnamed := hnamed.2 (hasFilename_iff.1 (by decide +kernel))
  have hreferred := hreferred.2 (by decide +kernel)
  have hreplaced := hreplaced (mt hasFilename_iff.2 (by decide +kernel)) (by decide +kernel)
  have hadded := hadded (mt hasFilename_iff.2 (by decide +kernel)) (by decide +kernel)
  exact ⟨Prod.ext hnamed (hkept _ hnamed).2, Prod.ext hreferred (hkept' _ hreferred).2,
    ⟨hreplaced.1, hreplaced.2.1, by decide +kernel⟩, hadded.1⟩

end Archive

end RaceAlbum
