import Mathlib.Data.List.Basic
import RaceAlbum.Archive.Basic

/-!
# What a statement does

For each statement, the rows that it leaves where it is made, and what held of the rows before. Events and photos are added
or put in the place of the row of their identifier, which is `upsert`; cyclists, colours and plates are only ever added.
-/

namespace RaceAlbum

variable {α ρ : Type}

/-- Rows with one put in the place of the row of its key, or at the end where there is none. -/
def upsert (key : ρ → Uuid) (r : ρ) (rows : List ρ) : List ρ :=
  match rows.find? fun s => key s == key r with
  | some _ => rows.map fun s => if key s = key r then r else s
  | none => rows ++ [r]

section Upsert

variable {key : ρ → Uuid} {r s : ρ} {rows : List ρ}

/-- Rows of other keys are there before and after. -/
theorem mem_upsert : s ∈ upsert key r rows ↔ s = r ∨ (s ∈ rows ∧ key s ≠ key r) := by
  unfold upsert
  split
  · rename_i stored hfind
    have hstored := List.mem_of_find?_eq_some hfind
    have hkey : key stored = key r := by simpa using List.find?_some hfind
    simp only [List.mem_map]
    constructor
    · rintro ⟨t, ht, rfl⟩
      split
      · exact .inl rfl
      · exact .inr ⟨ht, ‹_›⟩
    · rintro (rfl | ⟨hs, hne⟩)
      · exact ⟨stored, hstored, if_pos hkey⟩
      · exact ⟨s, hs, if_neg hne⟩
  · rename_i hfind
    simp only [List.find?_eq_none, beq_iff_eq] at hfind
    simp only [List.mem_append, List.mem_singleton]
    constructor
    · rintro (hs | rfl)
      · exact .inr ⟨hs, hfind s hs⟩
      · exact .inl rfl
    · rintro (rfl | ⟨hs, -⟩)
      · exact .inr rfl
      · exact .inl hs

/-- A row of a new key is put at the end. -/
theorem upsert_of_new (h : ∀ s ∈ rows, key s ≠ key r) : upsert key r rows = rows ++ [r] := by
  have hfind : rows.find? (fun s => key s == key r) = none := by simpa using h
  rw [upsert, hfind]

/-- A row whose key is there is put in its place. -/
theorem upsert_of_present (h : ∃ s ∈ rows, key s = key r) :
    upsert key r rows = rows.map fun s => if key s = key r then r else s := by
  unfold upsert
  split
  · rfl
  · rename_i hnone
    obtain ⟨s, hs, hsr⟩ := h
    exact absurd (beq_iff_eq.2 hsr) (List.find?_eq_none.1 hnone s hs)

/-- Where keys are unique, a row is put exactly in the place of the one of its key. -/
theorem upsert_between {before after : List ρ} (hkeys : ((before ++ s :: after).map key).Nodup) (hkey : key r = key s) :
    upsert key r (before ++ s :: after) = before ++ r :: after := by
  have hmoved : ((s :: (before ++ after)).map key).Nodup := (List.perm_middle.map key).nodup_iff.1 hkeys
  rw [List.map_cons, List.nodup_cons] at hmoved
  have hother : ∀ t ∈ before ++ after, key t ≠ key r := fun t ht heq =>
    hmoved.1 (List.mem_map.2 ⟨t, ht, heq.trans hkey⟩)
  obtain ⟨hbefore, hafter⟩ := List.forall_mem_append.1 hother
  have hstay {rows : List ρ} (h : ∀ t ∈ rows, key t ≠ key r) :
      (rows.map fun t => if key t = key r then r else t) = rows :=
    (List.map_congr_left fun t ht => if_neg (h t ht)).trans (List.map_id' rows)
  rw [upsert_of_present ⟨s, by simp, hkey.symm⟩, List.map_append, List.map_cons, if_pos hkey.symm, hstay hbefore,
    hstay hafter]

/-- No key is lost. -/
theorem exists_key_upsert (key : ρ → Uuid) (r : ρ) (hs : s ∈ rows) : ∃ t ∈ upsert key r rows, key t = key s := by
  by_cases h : key s = key r
  · exact ⟨r, mem_upsert.2 (.inl rfl), h.symm⟩
  · exact ⟨s, mem_upsert.2 (.inr ⟨hs, h⟩), rfl⟩

/-- What holds between any two rows still holds if it holds between the new row and those of other keys. -/
theorem pairwise_upsert {R : ρ → ρ → Prop} (hsymm : ∀ s t, R s t → R t s)
    (hkeys : rows.Pairwise fun s t => key s ≠ key t) (hrows : rows.Pairwise R)
    (hr : ∀ s ∈ rows, key s ≠ key r → R s r) : (upsert key r rows).Pairwise R := by
  unfold upsert
  split
  · rw [List.pairwise_map]
    refine (hkeys.and hrows).imp_of_mem fun {s t} hs ht ⟨hne, hR⟩ => ?_
    by_cases h : key s = key r
    · rw [if_pos h, if_neg fun h' => hne (h.trans h'.symm)]
      exact hsymm _ _ (hr t ht fun h' => hne (h.trans h'.symm))
    · rw [if_neg h]
      split
      · exact hr s hs h
      · exact hR
  · rename_i hfind
    simp only [List.find?_eq_none, beq_iff_eq] at hfind
    refine List.pairwise_append.2 ⟨hrows, List.pairwise_singleton _ _, fun s hs t ht => ?_⟩
    rw [List.mem_singleton.1 ht]
    exact hr s hs (hfind s hs)

end Upsert

/-- The row of a photo that is classified at a moment. -/
def PhotoRow.classifiedAt (r : PhotoRow) (m : Moment) : PhotoRow :=
  { r with status := .completed, unclassifiedReason := none, processedAt := some m }

namespace Archive

variable {a a' : Archive}

/-- A condition that is asked for holds where a statement goes on. -/
theorem ensure_bind_ok {holds : Bool} {f : Failure} {k : Unit → Except Failure α} {x : α}
    (h : (ensure holds f >>= k) = .ok x) : holds = true ∧ k () = .ok x := by
  cases holds with
  | true => exact ⟨rfl, h⟩
  | false => cases h

/-- A statement goes on where the condition that is asked for holds. -/
theorem ensure_bind_of {holds : Bool} {f : Failure} {k : Unit → Except Failure α} (h : holds = true) :
    (ensure holds f >>= k) = k () := by
  rw [h]
  rfl

/-- Saving an event puts its row among the events and changes nothing else. -/
theorem saveEvent_ok {e : Event} (h : a.saveEvent e = .ok a') :
    a' = { a with events := upsert EventRow.id (.ofEntity e) a.events } := by
  obtain ⟨-, h⟩ := ensure_bind_ok h
  unfold upsert
  split at h
  · rename_i hfind
    obtain ⟨-, h⟩ := ensure_bind_ok h
    cases h
    rw [hfind]
  · rename_i hfind
    obtain ⟨-, h⟩ := ensure_bind_ok h
    cases h
    rw [hfind]

/-- Saving a photo puts its row among the photos and changes nothing else. Its event is there, and no other photo of the
event has its file name. -/
theorem savePhoto_ok {p : Photo} (h : a.savePhoto p = .ok a') :
    a' = { a with photos := upsert PhotoRow.id (.ofEntity p) a.photos } ∧ a.hasFilename (.ofEntity p) = false ∧
      a.hasEvent p.eventId = true := by
  obtain ⟨-, h⟩ := ensure_bind_ok h
  unfold upsert
  split at h
  · rename_i hfind
    obtain ⟨-, h⟩ := ensure_bind_ok h
    obtain ⟨hname, h⟩ := ensure_bind_ok h
    obtain ⟨hevent, h⟩ := ensure_bind_ok h
    cases h
    rw [hfind]
    exact ⟨rfl, by simpa using hname, hevent⟩
  · rename_i hfind
    obtain ⟨-, h⟩ := ensure_bind_ok h
    obtain ⟨hname, h⟩ := ensure_bind_ok h
    obtain ⟨hevent, h⟩ := ensure_bind_ok h
    cases h
    rw [hfind]
    exact ⟨rfl, by simpa using hname, hevent⟩

/-- A photo is stored where it is saved. -/
theorem storePhoto_eq_ok_iff {p : Photo} : a.storePhoto p = .ok a' ↔ a.savePhoto p = .ok a' := by
  unfold storePhoto
  cases a.savePhoto p <;> simp [Except.mapError]

/-- The row of a photo with the marks of how far it is processed. -/
def mark (id : Uuid) (status : PhotoStatus) (reason : Option UnclassifiedReason) (processedAt : Option Moment)
    (r : PhotoRow) : PhotoRow :=
  if r.id = id then { r with status := status, unclassifiedReason := reason, processedAt := processedAt } else r

@[simp] theorem mark_id {id : Uuid} {status : PhotoStatus} {reason : Option UnclassifiedReason}
    {processedAt : Option Moment} {r : PhotoRow} : (mark id status reason processedAt r).id = r.id := by
  unfold mark
  split <;> rfl

/-- Marking a photo changes the marks of its row and nothing else. -/
theorem markPhoto_ok {id : Uuid} {status : PhotoStatus} {reason : Option UnclassifiedReason}
    {processedAt : Option Moment} (h : a.markPhoto id status reason processedAt = .ok a') :
    a' = { a with photos := a.photos.map (mark id status reason processedAt) } := by
  obtain ⟨-, h⟩ := ensure_bind_ok h
  cases h
  rfl

/-- A cyclist is added at the end. Its identifier is new, and its photo is there. -/
theorem addCyclist_ok {r : CyclistRow} (h : a.addCyclist r = .ok a') :
    a' = { a with cyclists := a.cyclists ++ [r] } ∧ a.hasCyclist r.id = false ∧ a.hasPhoto r.photoId = true := by
  obtain ⟨-, h⟩ := ensure_bind_ok h
  obtain ⟨-, h⟩ := ensure_bind_ok h
  obtain ⟨hid, h⟩ := ensure_bind_ok h
  obtain ⟨hphoto, h⟩ := ensure_bind_ok h
  cases h
  exact ⟨rfl, by simpa using hid, hphoto⟩

/-- A colour is added at the end. Its cyclist is there. -/
theorem addColor_ok {r : ColorRow} (h : a.addColor r = .ok a') :
    a' = { a with colors := a.colors ++ [r] } ∧ a.hasCyclist r.cyclistId = true := by
  obtain ⟨-, h⟩ := ensure_bind_ok h
  obtain ⟨-, h⟩ := ensure_bind_ok h
  obtain ⟨-, h⟩ := ensure_bind_ok h
  obtain ⟨hcyclist, h⟩ := ensure_bind_ok h
  cases h
  exact ⟨rfl, hcyclist⟩

/-- A plate is added at the end. Its cyclist is there and has no plate. -/
theorem addPlate_ok {r : PlateRow} (h : a.addPlate r = .ok a') :
    a' = { a with plates := a.plates ++ [r] } ∧ (∀ s ∈ a.plates, s.cyclistId ≠ r.cyclistId) ∧
      a.hasCyclist r.cyclistId = true := by
  obtain ⟨-, h⟩ := ensure_bind_ok h
  obtain ⟨-, h⟩ := ensure_bind_ok h
  obtain ⟨hplate, h⟩ := ensure_bind_ok h
  obtain ⟨-, h⟩ := ensure_bind_ok h
  obtain ⟨hcyclist, h⟩ := ensure_bind_ok h
  cases h
  exact ⟨rfl, by simpa using hplate, hcyclist⟩

/-- Deleting a photo deletes its row, its cyclists and their plates and colours, and nothing else. -/
theorem deletePhoto_ok {id : Uuid} (h : a.deletePhoto id = .ok a') :
    a' = { a with
      photos := a.photos.filter fun r => r.id != id
      cyclists := a.cyclists.filter fun r => !ofPhoto id r
      plates := a.plates.filter fun r => !a.photoHasCyclist id r.cyclistId
      colors := a.colors.filter fun r => !a.photoHasCyclist id r.cyclistId } := by
  obtain ⟨-, h⟩ := ensure_bind_ok h
  obtain ⟨-, h⟩ := ensure_bind_ok h
  obtain ⟨-, h⟩ := ensure_bind_ok h
  obtain ⟨-, h⟩ := ensure_bind_ok h
  cases h
  rfl

end Archive

end RaceAlbum
