import Mathlib.Data.List.Nodup
import RaceAlbum.Proofs.Service.Moves

/-!
# Sound tasks

What calls that run side by side have to do fits the rows and the objects that they share: `Sound` says how, and every move
keeps it (`Sound.move`). The lots that calls have still to do are told apart from those that are spent. Rows are of spent
lots only, and the object of each of these rows is there. An object without a row is in the hands of a call, or its removal
failed.

A move concerns one lot, and lots differ in their identifiers and their keys. What it leaves of all the others is said once
(`Sound.of_concerns`); what is left is to look at the one lot, with one lemma for each kind of move.
-/

namespace RaceAlbum

/-! ## Lots that differ -/

/-- Lots of which no two have the same identifier or the same key. -/
structure Distinct (ls : List Lot) : Prop where
  ids : (ls.map Lot.id).Nodup
  keys : (ls.map Lot.key).Nodup

namespace Distinct

variable {ls : List Lot} {l l' : Lot}

/-- The identifier of a lot tells which one it is. -/
theorem eq_of_id (h : Distinct ls) (hl : l ∈ ls) (hl' : l' ∈ ls) (hid : l.id = l'.id) : l = l' :=
  List.inj_on_of_nodup_map h.ids hl hl' hid

/-- So does its key. -/
theorem eq_of_key (h : Distinct ls) (hl : l ∈ ls) (hl' : l' ∈ ls) (hkey : l.key = l'.key) : l = l' :=
  List.inj_on_of_nodup_map h.keys hl hl' hkey

end Distinct

/-! ## What is sound -/

/-- The lots whose rows a call has still to save. -/
def Task.pending (x : Task) : List Lot :=
  match x.stage with
  | .saving l => l :: x.todo
  | _ => x.todo

/-- The key of the object that a call is about to give a row or to remove. -/
def Stage.handled : Stage → Option String
  | calm _ => none
  | saving l | removing l => some l.key

/-- The object of a lot is there, and its bytes are those of the file. -/
def BucketStore.Holds (b : BucketStore) (l : Lot) : Prop := ∀ data, (l.key, data) ∈ b.objects ↔ data = l.file.data

/-- A lot whose row no call has still to save. -/
structure Spent (ls : List Lot) (xs : List Task) (l : Lot) : Prop where
  known : l ∈ ls
  done : ∀ x ∈ xs, l ∉ x.pending

/-- What is so at a stage: a row that was seen is of a spent lot; the object is there whose row is about to be saved; and an
object that is about to be removed has no row and will have none. -/
def Stage.Fits (ls : List Lot) (xs : List Task) (k : Stock) : Stage → Prop
  | calm seen => ∀ l ∈ seen, Spent ls xs l
  | saving l => k.bucket.Holds l
  | removing l => Spent ls xs l ∧ l.origin ∉ k.rows

/-- An object is of a row, or of a lot that a call handles, or its removal failed. -/
def Accounted (xs : List Task) (k : Stock) (key : String) : Prop :=
  (∃ r ∈ k.rows, r.key = key) ∨ (∃ x ∈ xs, x.stage.handled = some key) ∨ k.bucket.FailedToRemove key

/-- What calls have to do fits what they share. -/
structure Sound (ls : List Lot) (xs : List Task) (k : Stock) : Prop where
  nodup : (xs.flatMap Task.pending).Nodup
  known : ∀ x ∈ xs, ∀ l ∈ x.pending, l ∈ ls
  fits : ∀ x ∈ xs, x.stage.Fits ls xs k
  shown : ∀ r ∈ k.rows, ∃ l, Spent ls xs l ∧ r = l.origin ∧ k.bucket.Holds l
  accounted : ∀ o ∈ k.bucket.objects, Accounted xs k o.1

section Tasks

variable {ls : List Lot} {xs xs' rest : List Task} {x x' : Task} {k k' : Stock} {l l' : Lot} {key : String}

/-! ## The order of tasks -/

/-- A lot is spent in whatever order tasks are listed. -/
theorem Spent.perm (h : Spent ls xs l) (hp : xs.Perm xs') : Spent ls xs' l :=
  ⟨h.known, fun x hx => h.done x (hp.mem_iff.2 hx)⟩

/-- What calls have to do fits what they share in whatever order they are listed. -/
theorem Sound.perm (h : Sound ls xs k) (hp : xs.Perm xs') : Sound ls xs' k where
  nodup := (hp.flatMap_right Task.pending).nodup_iff.1 h.nodup
  known x hx := h.known x (hp.mem_iff.2 hx)
  fits x hx := by
    have hfits := h.fits x (hp.mem_iff.2 hx)
    cases hstage : x.stage with
    | calm seen =>
      rw [hstage] at hfits
      exact fun l hl => (hfits l hl).perm hp
    | saving l =>
      rw [hstage] at hfits
      exact hfits
    | removing l =>
      rw [hstage] at hfits
      exact ⟨hfits.1.perm hp, hfits.2⟩
  shown r hr := by
    obtain ⟨l, hl, hrest⟩ := h.shown r hr
    exact ⟨l, hl.perm hp, hrest⟩
  accounted o ho := by
    rcases h.accounted o ho with hr | ⟨x, hx, hkey⟩ | hfailed
    · exact .inl hr
    · exact .inr (.inl ⟨x, hp.mem_iff.1 hx, hkey⟩)
    · exact .inr (.inr hfailed)

/-! ## What a move leaves -/

/-- A spent lot stays spent, since no call takes up a lot again. -/
theorem Spent.of_sublist (h : Spent ls (x :: rest) l) (hsub : x'.pending.Sublist x.pending) : Spent ls (x' :: rest) l where
  known := h.known
  done := by
    refine List.forall_mem_cons.2 ⟨fun hl => ?_, fun y hy => h.done y (List.mem_cons_of_mem _ hy)⟩
    exact h.done x List.mem_cons_self (hsub.subset hl)

namespace Sound

/-- A lot that a call has still to do is one of its own. -/
theorem not_pending (h : Sound ls (x :: rest) k) (hl : l ∈ x.pending) : ∀ y ∈ rest, l ∉ y.pending := by
  obtain ⟨-, -, hdisjoint⟩ := List.nodup_append'.1 h.nodup
  exact fun y hy hly => hdisjoint hl (List.mem_flatMap.2 ⟨y, hy, hly⟩)

/-- A lot that is dropped is spent. -/
theorem spent_of_dropped (h : Sound ls (x :: rest) k) (hx : x.pending = l :: x'.pending) : Spent ls (x' :: rest) l := by
  have hl : l ∈ x.pending := hx ▸ List.mem_cons_self
  refine ⟨h.known x List.mem_cons_self l hl, List.forall_mem_cons.2 ⟨?_, h.not_pending hl⟩⟩
  have hnodup : (l :: x'.pending).Nodup := hx ▸ (List.nodup_append'.1 h.nodup).1
  exact (List.nodup_cons.1 hnodup).1

/-- A row that has the identifier of a lot is the row of that lot, which is spent. -/
theorem row_of_id (h : Sound ls xs k) (hd : Distinct ls) (hl : l ∈ ls) {r : Origin} (hr : r ∈ k.rows) (hid : r.id = l.id) :
    r = l.origin ∧ Spent ls xs l ∧ k.bucket.Holds l := by
  obtain ⟨l', hspent, rfl, hholds⟩ := h.shown r hr
  obtain rfl := hd.eq_of_id hspent.known hl hid
  exact ⟨rfl, hspent, hholds⟩

end Sound

/-- Apart from one lot, the rows and the objects are the same, and what failed before is not forgotten. -/
structure SameBut (l : Lot) (k k' : Stock) : Prop where
  rows : ∀ r, r.id ≠ l.id → (r ∈ k'.rows ↔ r ∈ k.rows)
  objects : ∀ o : String × Bytes, o.1 ≠ l.key → (o ∈ k'.bucket.objects ↔ o ∈ k.bucket.objects)
  failed : ∀ key, k.bucket.FailedToRemove key → k'.bucket.FailedToRemove key

/-- The objects of other lots are still there. -/
theorem SameBut.holds (h : SameBut l k k') (hl : k.bucket.Holds l') (hkey : l'.key ≠ l.key) : k'.bucket.Holds l' :=
  fun data => (h.objects (l'.key, data) hkey).trans (hl data)

/-- Where nothing changes, nothing changes apart from a lot. -/
theorem SameBut.refl (l : Lot) (k : Stock) : SameBut l k k := ⟨fun _ _ => .rfl, fun _ _ => .rfl, fun _ h => h⟩

/-- A call goes from `x` to `x'` beside the others, and what is shared from `k` to `k'`, where nothing is concerned but one
lot, for which the outcome is sound. -/
structure Concerns (ls : List Lot) (rest : List Task) (l : Lot) (x x' : Task) (k k' : Stock) : Prop where
  known : l ∈ ls
  same : SameBut l k k'
  pending : x'.pending.Sublist x.pending
  others : ∀ y ∈ rest, l ∉ y.pending
  handled : ∀ key, x.stage.handled = some key → key = l.key
  fits : x'.stage.Fits ls (x' :: rest) k'
  origin : l.origin ∈ k'.rows → l.origin ∈ k.rows ∨ l ∈ x.pending
  shown : ∀ r ∈ k'.rows, r.id = l.id → r = l.origin ∧ Spent ls (x' :: rest) l ∧ k'.bucket.Holds l
  accounted : ∀ o ∈ k'.bucket.objects, o.1 = l.key → Accounted (x' :: rest) k' l.key

/-- What concerns one lot only, and is sound for it, is sound. -/
theorem Sound.of_concerns (h : Sound ls (x :: rest) k) (hd : Distinct ls) (hc : Concerns ls rest l x x' k k') :
    Sound ls (x' :: rest) k' where
  nodup := by
    refine List.Nodup.sublist ?_ h.nodup
    exact hc.pending.append_right _
  known := by
    refine List.forall_mem_cons.2 ⟨fun l' hl' => ?_, fun y hy => h.known y (List.mem_cons_of_mem _ hy)⟩
    exact h.known x List.mem_cons_self l' (hc.pending.subset hl')
  fits := by
    refine List.forall_mem_cons.2 ⟨hc.fits, fun y hy => ?_⟩
    have hfitsy := h.fits y (List.mem_cons_of_mem _ hy)
    cases hstage : y.stage with
    | calm seen =>
      rw [hstage] at hfitsy
      exact fun l' hl' => (hfitsy l' hl').of_sublist hc.pending
    | saving l' =>
      -- The lot of another call is another lot, so its object is still there.
      rw [hstage] at hfitsy
      have hpending : l' ∈ y.pending := by simp [Task.pending, hstage]
      have hknown := h.known y (List.mem_cons_of_mem _ hy) l' hpending
      refine hc.same.holds hfitsy fun hkey => hc.others y hy ?_
      rwa [← hd.eq_of_key hknown hc.known hkey]
    | removing l' =>
      rw [hstage] at hfitsy
      obtain ⟨hspent, hrow⟩ := hfitsy
      refine ⟨hspent.of_sublist hc.pending, fun hrow' => ?_⟩
      by_cases hid : l'.id = l.id
      · obtain rfl := hd.eq_of_id hspent.known hc.known hid
        rcases hc.origin hrow' with hrow' | hl'
        · exact hrow hrow'
        · exact hspent.done x List.mem_cons_self hl'
      · exact hrow ((hc.same.rows l'.origin hid).1 hrow')
  shown r hr := by
    by_cases hid : r.id = l.id
    · obtain ⟨rfl, hspent, hholds⟩ := hc.shown r hr hid
      exact ⟨l, hspent, rfl, hholds⟩
    · obtain ⟨l', hspent, rfl, hholds⟩ := h.shown r ((hc.same.rows r hid).1 hr)
      refine ⟨l', hspent.of_sublist hc.pending, rfl, hc.same.holds hholds fun hkey => hid ?_⟩
      exact congrArg Lot.id (hd.eq_of_key hspent.known hc.known hkey)
  accounted o ho := by
    by_cases hkey : o.1 = l.key
    · exact hkey ▸ hc.accounted o ho hkey
    · rcases h.accounted o ((hc.same.objects o hkey).1 ho) with ⟨r, hr, hrow⟩ | ⟨y, hy, hhandles⟩ | hfailed
      · refine .inl ⟨r, (hc.same.rows r fun hid => hkey ?_).2 hr, hrow⟩
        rw [← hrow, (h.row_of_id hd hc.known hr hid).1]
        rfl
      · rcases List.mem_cons.1 hy with rfl | hy
        · exact absurd (hc.handled _ hhandles) hkey
        · exact .inr (.inl ⟨y, List.mem_cons_of_mem _ hy, hhandles⟩)
      · exact .inr (.inr (hc.same.failed _ hfailed))

/-- A lot is not spent while its row is still to be saved. -/
theorem Sound.no_row (h : Sound ls (x :: rest) k) (hd : Distinct ls) (hl : l ∈ x.pending) {r : Origin} (hr : r ∈ k.rows) :
    r.id ≠ l.id := by
  intro hid
  obtain ⟨-, hspent, -⟩ := h.row_of_id hd (h.known x List.mem_cons_self l hl) hr hid
  exact hspent.done x List.mem_cons_self hl

/-- What a call that handles no object has to account for is accounted for without it. -/
theorem Accounted.of_calm (h : Accounted (x :: rest) k key) (hx : x.stage.handled = none) (hrows : k'.rows = k.rows)
    (hfailed : k.bucket.FailedToRemove key → k'.bucket.FailedToRemove key) : Accounted (x' :: rest) k' key := by
  rcases h with ⟨r, hr, hkey⟩ | ⟨y, hy, hkey⟩ | h
  · exact .inl ⟨r, hrows ▸ hr, hkey⟩
  · rcases List.mem_cons.1 hy with rfl | hy
    · rw [hx] at hkey
      cases hkey
    · exact .inr (.inl ⟨y, List.mem_cons_of_mem _ hy, hkey⟩)
  · exact .inr (.inr (hfailed h))

/-- A call that knows a spent lot and handles none may forget or find it. -/
theorem Sound.of_spent (h : Sound ls (x :: rest) k) (hd : Distinct ls) (hspent : Spent ls (x :: rest) l)
    (hpending : x'.pending = x.pending) (hx : x.stage.handled = none)
    (hfits : Spent ls (x' :: rest) l → x'.stage.Fits ls (x' :: rest) k) : Sound ls (x' :: rest) k := by
  have hsub : x'.pending.Sublist x.pending := by rw [hpending]
  have hspent' : Spent ls (x' :: rest) l := hspent.of_sublist hsub
  refine h.of_concerns hd (l := l) {
    known := hspent.known
    same := .refl l k
    pending := hsub
    others := fun y hy => hspent.done y (List.mem_cons_of_mem _ hy)
    handled := by simp [hx]
    fits := hfits hspent'
    origin := .inl
    shown := fun r hr hid => ?_
    accounted := fun o ho hkey => hkey ▸ (h.accounted o ho).of_calm hx rfl id }
  obtain ⟨hrow, -, hholds⟩ := h.row_of_id hd hspent.known hr hid
  exact ⟨hrow, hspent', hholds⟩

/-! ## What a call does with one lot

An upload goes on with a lot whose row is still to be saved (`Sound.of_unsaved`). What removes an object goes on with a spent lot
that has no row (`Sound.of_rowless`). Only the saving and the deletion of a row change which rows there are.
-/

/-- A call to the bucket about the object of one lot leaves all other objects. -/
theorem SameBut.of_call {rows : List Origin} {b : BucketStore} {objects : List (String × Bytes)} (c : BucketCall)
    (hobjects : ∀ o : String × Bytes, o.1 ≠ l.key → (o ∈ objects ↔ o ∈ b.objects)) :
    SameBut l ⟨rows, b⟩ ⟨rows, { b with calls := b.calls ++ [c], objects }⟩ where
  rows _ _ := .rfl
  objects := hobjects
  failed _ hfailed := hfailed.later rfl rfl

/-- A change of the rows that is about one lot leaves all other rows. -/
theorem SameBut.of_rows {rows rows' : List Origin} {b : BucketStore}
    (hrows : ∀ r : Origin, r.id ≠ l.id → (r ∈ rows' ↔ r ∈ rows)) : SameBut l ⟨rows, b⟩ ⟨rows', b⟩ where
  rows := hrows
  objects _ _ := .rfl
  failed _ hfailed := hfailed

/-- A call goes on with a lot whose row it has still to save, and does not save it yet. -/
theorem Sound.of_unsaved (h : Sound ls (x :: rest) k) (hd : Distinct ls) (hl : l ∈ x.pending) (hrows : k'.rows = k.rows)
    (hsame : SameBut l k k') (hpending : x'.pending.Sublist x.pending)
    (hhandled : ∀ key, x.stage.handled = some key → key = l.key) (hfits : x'.stage.Fits ls (x' :: rest) k')
    (haccounted : ∀ o ∈ k'.bucket.objects, o.1 = l.key → Accounted (x' :: rest) k' l.key) : Sound ls (x' :: rest) k' :=
  h.of_concerns hd {
    known := h.known x List.mem_cons_self l hl
    same := hsame
    pending := hpending
    others := h.not_pending hl
    handled := hhandled
    fits := hfits
    origin := fun hrow => .inl (hrows ▸ hrow)
    shown := fun _ hr hid => absurd hid (h.no_row hd hl (hrows ▸ hr))
    accounted := haccounted }

/-- A call that removes the object of a spent lot without a row is done with it. -/
theorem Sound.of_rowless {todo : List Lot} (h : Sound ls (⟨todo, .removing l⟩ :: rest) k) (hd : Distinct ls)
    (hrows : k'.rows = k.rows) (hsame : SameBut l k k')
    (haccounted : ∀ o ∈ k'.bucket.objects, o.1 = l.key → Accounted (⟨todo, .calm none⟩ :: rest) k' l.key) :
    Sound ls (⟨todo, .calm none⟩ :: rest) k' := by
  obtain ⟨hspent, hrow⟩ := h.fits _ List.mem_cons_self
  have hnone (r : Origin) (hr : r ∈ k'.rows) : r.id ≠ l.id := by
    intro hid
    have horigin : r = l.origin := (h.row_of_id hd hspent.known (hrows ▸ hr) hid).1
    exact hrow (horigin ▸ hrows ▸ hr)
  exact h.of_concerns hd {
    known := hspent.known
    same := hsame
    pending := .refl _
    others := fun y hy => hspent.done y (List.mem_cons_of_mem _ hy)
    handled := fun key hkey => (Option.some.inj hkey).symm
    fits := nofun
    origin := fun hrow => .inl (hrows ▸ hrow)
    shown := fun r hr hid => absurd hid (hnone r hr)
    accounted := haccounted }

/-! ## Moves, kind by kind -/

section Moves

variable {todo : List Lot} {seen : Option Lot} {rows rows' : List Origin} {b : BucketStore}

/-- A call finds the row of a lot. -/
theorem Sound.find (h : Sound ls (⟨todo, .calm seen⟩ :: rest) k) (hd : Distinct ls) (hl : l ∈ ls) (hrow : l.origin ∈ k.rows) :
    Sound ls (⟨todo, .calm (some l)⟩ :: rest) k := by
  obtain ⟨-, hspent, -⟩ := h.row_of_id hd hl hrow rfl
  refine h.of_spent hd hspent rfl rfl fun hspent => ?_
  rintro _ ⟨⟩
  exact hspent

/-- A call puts the object of its next lot. -/
theorem Sound.put (h : Sound ls (⟨l :: todo, .calm seen⟩ :: rest) ⟨rows, b⟩) (hd : Distinct ls) (c : BucketCall) :
    Sound ls (⟨todo, .saving l⟩ :: rest) ⟨rows, { b with
      calls := b.calls ++ [c]
      objects := BucketStore.without l.key b.objects ++ [(l.key, l.file.data)] }⟩ := by
  have hl : l ∈ Task.pending ⟨l :: todo, .calm seen⟩ := List.mem_cons_self
  have hothers (o : String × Bytes) (ho : o.1 ≠ l.key) :
      o ∈ BucketStore.without l.key b.objects ++ [(l.key, l.file.data)] ↔ o ∈ b.objects := by
    simp [BucketStore.mem_without, ho, Prod.ext_iff]
  refine h.of_unsaved hd hl rfl (.of_call c hothers) (.refl _) nofun (fun data => ?_) fun _ _ _ => ?_
  · simp [BucketStore.mem_without]
  · exact .inr (.inl ⟨_, List.mem_cons_self, rfl⟩)

/-- A call does not succeed in putting the object of its next lot, and drops the lot. -/
theorem Sound.putFailed (h : Sound ls (⟨l :: todo, .calm seen⟩ :: rest) ⟨rows, b⟩) (hd : Distinct ls) (c : BucketCall) :
    Sound ls (⟨todo, .calm seen⟩ :: rest) ⟨rows, { b with calls := b.calls ++ [c] }⟩ := by
  have hl : l ∈ Task.pending ⟨l :: todo, .calm seen⟩ := List.mem_cons_self
  have hsub : todo.Sublist (l :: todo) := List.sublist_cons_self l todo
  have hsame : SameBut l ⟨rows, b⟩ ⟨rows, { b with calls := b.calls ++ [c] }⟩ := .of_call c fun _ _ => .rfl
  refine h.of_unsaved hd hl rfl hsame hsub nofun (fun l' hl' => ?_) fun o ho hkey => ?_
  · exact (h.fits _ List.mem_cons_self l' hl').of_sublist hsub
  · exact hkey ▸ (h.accounted o ho).of_calm rfl rfl (hsame.failed _)

/-- A call saves the row of the lot whose object it has put. -/
theorem Sound.save (h : Sound ls (⟨todo, .saving l⟩ :: rest) ⟨rows, b⟩) (hd : Distinct ls)
    (hrows : ∀ r, r ∈ rows' ↔ r = l.origin ∨ (r ∈ rows ∧ r.id ≠ l.id)) :
    Sound ls (⟨todo, .calm none⟩ :: rest) ⟨rows', b⟩ := by
  have hl : l ∈ Task.pending ⟨todo, .saving l⟩ := List.mem_cons_self
  have hothers (r : Origin) (hr : r.id ≠ l.id) : r ∈ rows' ↔ r ∈ rows := by
    have hne : r ≠ l.origin := fun heq => hr (congrArg Origin.id heq)
    simp [hrows, hr, hne]
  have hrow (r : Origin) (hr : r ∈ rows') (hid : r.id = l.id) : r = l.origin :=
    ((hrows r).1 hr).resolve_right fun hr' => hr'.2 hid
  exact h.of_concerns hd {
    known := h.known _ List.mem_cons_self l hl
    same := .of_rows hothers
    pending := List.sublist_cons_self l todo
    others := h.not_pending hl
    handled := fun key hkey => (Option.some.inj hkey).symm
    fits := nofun
    origin := fun _ => .inr hl
    shown := fun r hr hid => ⟨hrow r hr hid, h.spent_of_dropped rfl, h.fits _ List.mem_cons_self⟩
    accounted := fun _ _ _ => .inl ⟨l.origin, (hrows _).2 (.inl rfl), rfl⟩ }

/-- A call does not succeed in saving the row of a lot, and is about to remove its object. -/
theorem Sound.saveFailed (h : Sound ls (⟨todo, .saving l⟩ :: rest) k) (hd : Distinct ls) :
    Sound ls (⟨todo, .removing l⟩ :: rest) k := by
  have hl : l ∈ Task.pending ⟨todo, .saving l⟩ := List.mem_cons_self
  have hrow : l.origin ∉ k.rows := fun hrow => h.no_row hd hl hrow rfl
  exact h.of_unsaved hd hl rfl (.refl l k) (List.sublist_cons_self l todo) (fun key hkey => (Option.some.inj hkey).symm)
    ⟨h.spent_of_dropped rfl, hrow⟩ fun _ _ _ => .inr (.inl ⟨_, List.mem_cons_self, rfl⟩)

/-- A call deletes the row that it has found, and is about to remove the object. -/
theorem Sound.delete (h : Sound ls (⟨todo, .calm (some l)⟩ :: rest) ⟨rows, b⟩) (hd : Distinct ls)
    (hrows : ∀ r, r ∈ rows' ↔ r ∈ rows ∧ r.id ≠ l.id) : Sound ls (⟨todo, .removing l⟩ :: rest) ⟨rows', b⟩ := by
  have hspent : Spent ls (⟨todo, .calm (some l)⟩ :: rest) l := h.fits _ List.mem_cons_self l rfl
  exact h.of_concerns hd {
    known := hspent.known
    same := .of_rows fun r hr => by simp [hrows, hr]
    pending := .refl _
    others := fun y hy => hspent.done y (List.mem_cons_of_mem _ hy)
    handled := nofun
    fits := ⟨hspent.of_sublist (.refl _), fun hrow => ((hrows _).1 hrow).2 rfl⟩
    origin := fun hrow => .inl ((hrows _).1 hrow).1
    shown := fun r hr hid => absurd hid ((hrows r).1 hr).2
    accounted := fun _ _ _ => .inr (.inl ⟨_, List.mem_cons_self, rfl⟩) }

/-- A call does not succeed in deleting the row that it has found, and forgets it. -/
theorem Sound.deleteFailed (h : Sound ls (⟨todo, .calm (some l)⟩ :: rest) k) (hd : Distinct ls) :
    Sound ls (⟨todo, .calm none⟩ :: rest) k :=
  h.of_spent hd (h.fits _ List.mem_cons_self l rfl) rfl rfl fun _ => nofun

/-- A call removes an object. -/
theorem Sound.remove (h : Sound ls (⟨todo, .removing l⟩ :: rest) ⟨rows, b⟩) (hd : Distinct ls) (c : BucketCall) :
    Sound ls (⟨todo, .calm none⟩ :: rest)
      ⟨rows, { b with calls := b.calls ++ [c], objects := BucketStore.without l.key b.objects }⟩ := by
  have hothers (o : String × Bytes) (ho : o.1 ≠ l.key) : o ∈ BucketStore.without l.key b.objects ↔ o ∈ b.objects := by
    simp [BucketStore.mem_without, ho]
  refine h.of_rowless hd rfl (.of_call c hothers) fun o ho hkey => ?_
  exact absurd hkey (BucketStore.mem_without.1 ho).2

/-- A call does not succeed in removing an object. This is known of the object from then on. -/
theorem Sound.removeFailed (h : Sound ls (⟨todo, .removing l⟩ :: rest) ⟨rows, b⟩) (hd : Distinct ls) {c : BucketCall}
    (hfailed : BucketStore.FailedToRemove { b with calls := b.calls ++ [c] } l.key) :
    Sound ls (⟨todo, .calm none⟩ :: rest) ⟨rows, { b with calls := b.calls ++ [c] }⟩ :=
  h.of_rowless hd rfl (.of_call c fun _ _ => .rfl) fun _ _ _ => .inr (.inr hfailed)

end Moves

/-- Every move keeps what is sound. -/
theorem Sound.move (h : Sound ls (x :: rest) k) (hd : Distinct ls) (hm : Move ls x k x' k') : Sound ls (x' :: rest) k' := by
  cases hm with
  | still => exact h
  | find hl hrow => exact h.find hd hl hrow
  | put => exact h.put hd _
  | putFailed => exact h.putFailed hd _
  | save hrows => exact h.save hd hrows
  | saveFailed => exact h.saveFailed hd
  | delete hrows => exact h.delete hd hrows
  | deleteFailed => exact h.deleteFailed hd
  | remove => exact h.remove hd _
  | removeFailed hb hfailed =>
    subst hb
    exact h.removeFailed hd hfailed

end Tasks

end RaceAlbum
