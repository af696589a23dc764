import Mathlib.Data.List.Induction
import RaceAlbum.Proofs.Archive.Constrained
import RaceAlbum.Proofs.Service.EventChanges
import RaceAlbum.Proofs.Service.Scene
import RaceAlbum.Proofs.Service.Session

/-!
# Two changes of an event side by side

Two calls change one event, in any order of their questions. Nothing is locked and nothing is compared: whoever saves last
has the last word. If one call has read the event after the other had saved it, they have run in turn. If both had read it
before either saved it, the row is what the last one to save makes of the row that it had read, and the change of the other
one is lost, be it a deletion (`event_changes_in_turn_or_overwritten`, `deletion_overwritten`).
-/

namespace RaceAlbum

open Program

/-- The rows that a call leaves when it runs by itself. -/
def runAlone (s : Storage) (x : ServiceCall × Tape) (a : Archive) : Archive := (run taped x.1.program ⟨x.2, a, s⟩).2.archive

/-- The call `x` has read the row `r` of its event in the archive `a` and has left the archive `b`, as it does by itself. -/
structure Left (s : Storage) (id : Uuid) (x : ServiceCall × Tape) (a : Archive) (r : EventRow) (b : Archive) : Prop where
  row : a.activeEvent? id = some r
  alone : b = runAlone s x a
  saved : ∃ e : Event, e.IsEdit x.1 r ∧ a.saveEvent e = .ok b

namespace Thread

/-- The call has read its event and not saved it yet: it asks something, and not for the event. -/
def IsUnderWay (t : Thread) : Prop := ∃ p next, t.program = .ask p next ∧ ∀ id, p ≠ .findEvent id

/-- The call has failed. -/
def Failed (t : Thread) : Prop := ∃ f, t.program = .failed f

/-- The call `x` has read a row of its event in the archive `b`, and what it has still to do is what it would do by itself. -/
structure Holds (s : Storage) (id : Uuid) (x : ServiceCall × Tape) (b : Archive) (r : EventRow) (t : Thread) : Prop where
  row : b.activeEvent? id = some r
  rest : ∃ (tape : Tape) (program : Program x.1.Answer), t = ⟨x.1, tape, program⟩ ∧
    Saves (fun e => e.IsEdit x.1 r) program ∧ (run taped program ⟨tape, b, s⟩).2.archive = runAlone s x b

/-- The call has not read its event, or has read it in the archive `b`. -/
def Waits (s : Storage) (id : Uuid) (x : ServiceCall × Tape) (b : Archive) (t : Thread) : Prop :=
  t = .start x ∨ ∃ r, t.Holds s id x b r

/-- The thread after a question. -/
def after (t : Thread) (program : Program t.call.Answer) (w : World Tape) : Thread :=
  { t with tape := w.supply, program := program }

variable {s : Storage} {id : Uuid} {x : ServiceCall × Tape} {a b : Archive} {r : EventRow} {t : Thread}
  {w : World Tape}

/-- A call that has ended asks nothing. -/
theorem after_of_ended {program : Program t.call.Answer} (ht : t.succeeded = true ∨ t.Failed)
    (h : t.program.step taped ⟨t.tape, b, s⟩ = (program, w)) : t.after program w = t ∧ w.archive = b ∧ w.storage = s := by
  obtain ⟨call, tape, prog⟩ := t
  cases prog with
  | done answer =>
    obtain ⟨rfl, rfl⟩ := Prod.mk.inj h
    exact ⟨rfl, rfl, rfl⟩
  | failed f =>
    obtain ⟨rfl, rfl⟩ := Prod.mk.inj h
    exact ⟨rfl, rfl, rfl⟩
  | ask p next =>
    rcases ht with ht | ⟨f, hf⟩
    · cases ht
    · cases hf

/-- The first question of a call is for its event: it fails, or it holds the row that is there. -/
theorem start_step (hx : x.1.ChangesEvent id) {program : Program (start x).call.Answer}
    (h : (start x).program.step taped ⟨(start x).tape, b, s⟩ = (program, w)) :
    w.archive = b ∧ w.storage = s ∧
      (((start x).after program w).Failed ∨ ∃ r, ((start x).after program w).Holds s id x b r) := by
  obtain ⟨next, hprogram, ⟨f, hnone⟩, hsome⟩ := hx.program_eq
  change x.1.program.step taped ⟨x.2, b, s⟩ = (program, w) at h
  rw [hprogram] at h
  change (next (.ok ((b.activeEvent? id).map EventRow.entity)), (⟨x.2, b, s⟩ : World Tape)) = (program, w) at h
  obtain ⟨rfl, rfl⟩ := Prod.mk.inj h
  refine ⟨rfl, rfl, ?_⟩
  have halone : runAlone s x b = (run taped (next (.ok ((b.activeEvent? id).map EventRow.entity))) ⟨x.2, b, s⟩).2.archive := by
    unfold runAlone
    rw [hprogram]
    rfl
  cases hrow : b.activeEvent? id with
  | none => exact .inl ⟨f, hnone⟩
  | some r =>
    rw [hrow] at halone
    have hactive : r.isActive = true := (Archive.activeEvent?_eq_some hrow).2.1
    exact .inr ⟨r, hrow, x.2, _, rfl, hsome r hactive, halone.symm⟩

/-- A call that holds its row asks its next question over whatever rows there are now: it fails, or it goes on, or it saves
what it makes of the row that it holds. -/
theorem Holds.step (ht : t.Holds s id x a r) {program : Program t.call.Answer}
    (h : t.program.step taped ⟨t.tape, b, s⟩ = (program, w)) :
    w.storage = s ∧
      ((t.after program w).Failed ∨
        (w.archive = b ∧ (t.after program w).Holds s id x a r) ∨
        ∃ e, (t.after program w).succeeded = true ∧ e.IsEdit x.1 r ∧ b.saveEvent e = .ok w.archive ∧
          (a.saveEvent e = .ok w.archive → Left s id x a r w.archive)) := by
  obtain ⟨hrow, tape, prog, rfl, hsaves, hrun⟩ := ht
  obtain ⟨hstorage, ⟨f, rfl⟩ | ⟨harchive, hsaves', hrun'⟩ | ⟨e, answer, rfl, he, hsave, hover⟩⟩ := hsaves.step h
  · exact ⟨hstorage, .inl ⟨f, rfl⟩⟩
  · refine ⟨hstorage, .inr (.inl ⟨harchive, hrow, w.supply, program, rfl, hsaves', ?_⟩)⟩
    rw [← hrun' a, hrun]
  · refine ⟨hstorage, .inr (.inr ⟨e, rfl, he, hsave, fun hsave' => ?_⟩)⟩
    exact { row := hrow, alone := by rw [← hrun, hover a _ hsave'], saved := ⟨e, he, hsave'⟩ }

/-- A call that holds its event has failed or is under way. -/
theorem Holds.failed_or_isUnderWay (ht : t.Holds s id x a r) : t.Failed ∨ t.IsUnderWay := by
  obtain ⟨-, tape, prog, rfl, hsaves, -⟩ := ht
  cases hsaves with
  | failed f => exact .inl ⟨f, rfl⟩
  | @ask p next hp _ =>
    refine .inr ⟨p, next, rfl, ?_⟩
    rintro id rfl
    cases hp
  | @save e next _ _ _ => exact .inr ⟨.saveEvent e, next, rfl, nofun⟩

/-- A call that waits has not succeeded. -/
theorem Waits.not_succeeded (hx : x.1.ChangesEvent id) (ht : t.Waits s id x a) : t.succeeded = false := by
  rcases ht with rfl | ⟨r, -, tape, prog, rfl, hsaves, -⟩
  · obtain ⟨next, hprogram, -⟩ := hx.program_eq
    unfold succeeded start
    rw [hprogram]
  · cases hsaves <;> rfl

end Thread

variable {s : Storage} {id : Uuid} {overlap : Prop} {x y : ServiceCall × Tape} {a b : Archive} {r : EventRow}
  {t u : Thread} {w : World Tape}

/-! ## Rows that are left -/

/-- A call that changes an event leaves the rows alone where the event is not found. -/
theorem runAlone_of_missing (hx : x.1.ChangesEvent id) (h : b.activeEvent? id = none) : runAlone s x b = b := by
  obtain ⟨next, hprogram, ⟨f, hnone⟩, -⟩ := hx.program_eq
  unfold runAlone
  rw [hprogram]
  change (run taped (next (.ok ((b.activeEvent? id).map EventRow.entity))) ⟨x.2, b, s⟩).2.archive = b
  rw [h]
  change (run taped (next (.ok none)) ⟨x.2, b, s⟩).2.archive = b
  rw [hnone]
  rfl

/-- The row that a call leaves is the one that it makes of the row that it has read. -/
theorem Left.events (h : Left s id x a r b) : ∃ m, b.events = upsert EventRow.id (x.1.edits m r) a.events := by
  obtain ⟨e, ⟨⟨m, hm⟩, -⟩, hsave⟩ := h.saved
  refine ⟨m, ?_⟩
  rw [Archive.saveEvent_ok hsave, hm]

/-- Where a row of an event was put, no other row of the event is found. -/
theorem activeEvent?_upsert {r' : EventRow} (hid : r.id = id) (hb : b.events = upsert EventRow.id r a.events)
    (h : b.activeEvent? id = some r') : r' = r := by
  obtain ⟨hmem, -, hid'⟩ := Archive.activeEvent?_eq_some h
  rw [hb] at hmem
  rcases mem_upsert.1 hmem with rfl | ⟨-, hne⟩
  · rfl
  · exact absurd (hid'.trans hid.symm) hne

/-- After a deletion the event is not found. -/
theorem activeEvent?_of_deleted (hid : r.id = id) (hb : b.events = upsert EventRow.id r a.events)
    (hr : r.isActive = false) : b.activeEvent? id = none := by
  cases h : b.activeEvent? id with
  | none => rfl
  | some r' =>
    have hactive : r'.isActive = true := (Archive.activeEvent?_eq_some h).2.1
    rw [activeEvent?_upsert hid hb h, hr] at hactive
    cases hactive

/-! ## Outcomes -/

/-- What two successful changes of an event leave, of which the second one is the last to save. -/
inductive ChangesLeave (s : Storage) (id : Uuid) (overlap : Prop) (a : Archive) (first last : ServiceCall × Tape)
    (b : Archive) : Prop where
  /-- What they leave in turn: the row that the last call makes of what the first one made of the row. -/
  | inTurn {r : EventRow} {m n : Moment} : a.activeEvent? id = some r → b = runAlone s last (runAlone s first a) →
      b.events = upsert EventRow.id (last.1.edits n (first.1.edits m r)) a.events →
      ChangesLeave s id overlap a first last b
  /-- They overlap, and the last call is an update: it leaves what it leaves by itself, and the other change is lost. -/
  | overwritten {r : EventRow} {n : Moment} : overlap → last.1.isUpdate = true → a.activeEvent? id = some r →
      b = runAlone s last a → b.events = upsert EventRow.id (last.1.edits n r) a.events →
      ChangesLeave s id overlap a first last b

/-- A call that reads its event after the other has saved it runs in turn. -/
theorem Left.inTurn {b' : Archive} {r' : EventRow} (hx : Left s id x a r b) (hy : Left s id y b r' b') :
    ChangesLeave s id overlap a x y b' := by
  obtain ⟨hmem, -, hid⟩ := Archive.activeEvent?_eq_some hx.row
  obtain ⟨m, hm⟩ := hx.events
  obtain ⟨n, hn⟩ := hy.events
  have hid' : (x.1.edits m r).id = id := (x.1.edits_id m r).trans hid
  obtain rfl := activeEvent?_upsert hid' hm hy.row
  have hsame : (x.1.edits m r).id = (y.1.edits n (x.1.edits m r)).id := (y.1.edits_id n _).symm
  refine .inTurn (m := m) (n := n) hx.row ?_ ?_
  · rw [hy.alone, hx.alone]
  · rw [hn, hm]
    exact upsert_upsert hsame ⟨r, hmem, (x.1.edits_id m r).symm.trans hsame⟩

/-- A call that has read its event before the other saved it has the last word. -/
theorem Left.overlapped (hoverlap : overlap) (hx : x.1.ChangesEvent id) (hy : y.1.ChangesEvent id) (h : Left s id y a r b) :
    ChangesLeave s id overlap a x y b ∨ ChangesLeave s id overlap a y x b := by
  obtain ⟨n, hn⟩ := h.events
  rcases hy with ⟨patch, hupdate⟩ | hdelete
  · left
    exact .overwritten hoverlap (by rw [hupdate]; rfl) h.row h.alone hn
  · -- a call that comes after the deletion does not find the event
    right
    have hid : (y.1.edits n r).id = id := (y.1.edits_id n r).trans (Archive.activeEvent?_eq_some h.row).2.2
    have hdeleted : (y.1.edits n r).isActive = false := by
      rw [hdelete]
      exact ServiceCall.delete_edits_isActive id n r
    refine .inTurn (m := n) (n := n) h.row ?_ ?_
    · rw [← h.alone, runAlone_of_missing hx (activeEvent?_of_deleted hid hn hdeleted)]
    · rw [ServiceCall.edits_of_deleted x.1 n hdeleted]
      exact hn

/-! ## Two calls side by side -/

/-- How two calls stand that started over the rows of `a`, where the rows are `b` now and neither of them has failed. -/
inductive Stands (s : Storage) (id : Uuid) (overlap : Prop) (a : Archive) :
    ServiceCall × Tape → ServiceCall × Tape → Thread → Thread → Archive → Prop where
  /-- Neither of them has saved its row. -/
  | reading {x y : ServiceCall × Tape} {t u : Thread} :
      t.Waits s id x a → u.Waits s id y a → Stands s id overlap a x y t u a
  /-- The first one has saved its row, and the other one had not read its event before. -/
  | saved {x y : ServiceCall × Tape} {t u : Thread} {b : Archive} {r : EventRow} :
      t.succeeded = true → Left s id x a r b → u.Waits s id y b → Stands s id overlap a x y t u b
  /-- The first one has saved its row, and the other one had read its event before. -/
  | overlapped {x y : ServiceCall × Tape} {t u : Thread} {b : Archive} {r r' : EventRow} :
      overlap → t.succeeded = true → Left s id x a r b → u.Holds s id y a r' → Stands s id overlap a x y t u b
  /-- Both have saved their rows. -/
  | finished {x y : ServiceCall × Tape} {t u : Thread} {b : Archive} :
      t.succeeded = true → u.succeeded = true → ChangesLeave s id overlap a x y b → Stands s id overlap a x y t u b
  /-- It is the other way round. -/
  | swap {x y : ServiceCall × Tape} {t u : Thread} {b : Archive} :
      Stands s id overlap a y x u t b → Stands s id overlap a x y t u b

/-- One of two calls has failed, or they stand as calls do and the objects are as they were. -/
def Goes (s : Storage) (id : Uuid) (overlap : Prop) (a : Archive) (x y : ServiceCall × Tape) (t u : Thread)
    (b : Archive) (s' : Storage) : Prop :=
  (t.Failed ∨ u.Failed) ∨ (s' = s ∧ Stands s id overlap a x y t u b)

theorem Goes.swap {s' : Storage} (h : Goes s id overlap a y x u t b s') : Goes s id overlap a x y t u b s' := by
  rcases h with hfailed | ⟨hstorage, hstands⟩
  · exact .inl hfailed.symm
  · exact .inr ⟨hstorage, .swap hstands⟩

/-- A call that has succeeded may be asked for its next question, and nothing happens. -/
theorem Stands.ended_step (ht : t.succeeded = true) (hstands : Stands s id overlap a x y t u b)
    {program : Program t.call.Answer} (h : t.program.step taped ⟨t.tape, b, s⟩ = (program, w)) :
    Goes s id overlap a x y (t.after program w) u w.archive w.storage := by
  obtain ⟨hsame, harchive, hstorage⟩ := Thread.after_of_ended (.inl ht) h
  rw [hsame, harchive]
  exact .inr ⟨hstorage, hstands⟩

/-- One of two calls that have saved nothing asks its next question. -/
theorem Stands.reading_step (hx : x.1.ChangesEvent id) (ht : t.Waits s id x a) (hu : u.Waits s id y a)
    (hoverlap : t.IsUnderWay → u.IsUnderWay → overlap) {program : Program t.call.Answer}
    (h : t.program.step taped ⟨t.tape, a, s⟩ = (program, w)) :
    Goes s id overlap a x y (t.after program w) u w.archive w.storage := by
  rcases ht with rfl | ⟨r, ht⟩
  · obtain ⟨harchive, hstorage, hfailed | hholds⟩ := Thread.start_step hx h
    · exact .inl (.inl hfailed)
    · rw [harchive]
      exact .inr ⟨hstorage, .reading (.inr hholds) hu⟩
  · obtain ⟨hstorage, hfailed | ⟨harchive, hholds⟩ | ⟨e, hsucceeded, he, hsave, hleft⟩⟩ := ht.step h
    · exact .inl (.inl hfailed)
    · rw [harchive]
      exact .inr ⟨hstorage, .reading (.inr ⟨r, hholds⟩) hu⟩
    · have hleft : Left s id x a r w.archive := hleft hsave
      rcases hu with rfl | ⟨r', hu⟩
      · exact .inr ⟨hstorage, .saved hsucceeded hleft (.inl rfl)⟩
      · rcases hu.failed_or_isUnderWay with hfailed | hunder
        · exact .inl (.inr hfailed)
        · rcases ht.failed_or_isUnderWay with hfailed | hunder'
          · rw [(Thread.after_of_ended (.inr hfailed) h).1]
            exact .inl (.inl hfailed)
          · exact .inr ⟨hstorage, .overlapped (hoverlap hunder' hunder) hsucceeded hleft hu⟩

/-- The second of two calls asks its next question after the first has saved its row. -/
theorem Stands.saved_step (hy : y.1.ChangesEvent id) (ht : t.succeeded = true) (hleft : Left s id x a r b)
    (hu : u.Waits s id y b) {program : Program u.call.Answer}
    (h : u.program.step taped ⟨u.tape, b, s⟩ = (program, w)) :
    Goes s id overlap a x y t (u.after program w) w.archive w.storage := by
  rcases hu with rfl | ⟨r', hu⟩
  · obtain ⟨harchive, hstorage, hfailed | hholds⟩ := Thread.start_step hy h
    · exact .inl (.inr hfailed)
    · rw [harchive]
      exact .inr ⟨hstorage, .saved ht hleft (.inr hholds)⟩
  · obtain ⟨hstorage, hfailed | ⟨harchive, hholds⟩ | ⟨e, hsucceeded, he, hsave, hleft'⟩⟩ := hu.step h
    · exact .inl (.inr hfailed)
    · rw [harchive]
      exact .inr ⟨hstorage, .saved ht hleft (.inr ⟨r', hholds⟩)⟩
    · exact .inr ⟨hstorage, .finished ht hsucceeded (hleft.inTurn (hleft' hsave))⟩

/-- The second of two calls, which had read its event before the first one saved it, asks its next question. -/
theorem Stands.overlapped_step (hx : x.1.ChangesEvent id) (hy : y.1.ChangesEvent id) (ho : overlap)
    (ht : t.succeeded = true) (hleft : Left s id x a r b) {r' : EventRow} (hu : u.Holds s id y a r')
    {program : Program u.call.Answer} (h : u.program.step taped ⟨u.tape, b, s⟩ = (program, w)) :
    Goes s id overlap a x y t (u.after program w) w.archive w.storage := by
  obtain ⟨hstorage, hfailed | ⟨harchive, hholds⟩ | ⟨e, hsucceeded, he, hsave, hleft'⟩⟩ := hu.step h
  · exact .inl (.inr hfailed)
  · rw [harchive]
    exact .inr ⟨hstorage, .overlapped ho ht hleft hholds⟩
  · -- what the first call has saved in between makes no difference
    obtain ⟨e₁, he₁, hfirst⟩ := hleft.saved
    obtain ⟨-, -, hid⟩ := Archive.activeEvent?_eq_some hleft.row
    obtain ⟨hmem, -, hid'⟩ := Archive.activeEvent?_eq_some hu.row
    have hsame : e₁.id = e.id := by rw [he₁.id, hid, he.id, hid']
    have hsave' : a.saveEvent e = .ok w.archive := by
      rw [← Archive.saveEvent_over he.stamped hsame ⟨r', hmem, he.id.symm⟩ hfirst]
      exact hsave
    rcases (hleft' hsave').overlapped ho hx hy with hleave | hleave
    · exact .inr ⟨hstorage, .finished ht hsucceeded hleave⟩
    · exact .inr ⟨hstorage, .swap (.finished hsucceeded ht hleave)⟩

/-- However two calls stand, either of them may ask its next question. -/
theorem Stands.step (hx : x.1.ChangesEvent id) (hy : y.1.ChangesEvent id) (hstands : Stands s id overlap a x y t u b)
    (hoverlap : t.IsUnderWay → u.IsUnderWay → overlap) :
    (∀ program w, t.program.step taped ⟨t.tape, b, s⟩ = (program, w) →
      Goes s id overlap a x y (t.after program w) u w.archive w.storage) ∧
    ∀ program w, u.program.step taped ⟨u.tape, b, s⟩ = (program, w) →
      Goes s id overlap a x y t (u.after program w) w.archive w.storage := by
  induction hstands with
  | reading ht hu =>
    constructor
    · intro program w h
      exact Stands.reading_step hx ht hu hoverlap h
    · intro program w h
      exact (Stands.reading_step hy hu ht (fun hu ht => hoverlap ht hu) h).swap
  | saved ht hleft hu =>
    constructor
    · intro program w h
      exact Stands.ended_step ht (.saved ht hleft hu) h
    · intro program w h
      exact Stands.saved_step hy ht hleft hu h
  | overlapped ho ht hleft hu =>
    constructor
    · intro program w h
      exact Stands.ended_step ht (.overlapped ho ht hleft hu) h
    · intro program w h
      exact Stands.overlapped_step hx hy ho ht hleft hu h
  | finished ht hu hleave =>
    constructor
    · intro program w h
      exact Stands.ended_step ht (.finished ht hu hleave) h
    · intro program w h
      exact (Stands.ended_step hu (.swap (.finished ht hu hleave)) h).swap
  | swap _ ih =>
    obtain ⟨hleft, hright⟩ := ih hy hx fun hu ht => hoverlap ht hu
    constructor
    · intro program w h
      exact (hright program w h).swap
    · intro program w h
      exact (hleft program w h).swap

/-- Where both calls have succeeded, one of them was the last to save. -/
theorem Stands.changesLeave (hx : x.1.ChangesEvent id) (hy : y.1.ChangesEvent id)
    (hstands : Stands s id overlap a x y t u b) (ht : t.succeeded = true) (hu : u.succeeded = true) :
    ∃ first last, [first, last].Perm [x, y] ∧ ChangesLeave s id overlap a first last b := by
  induction hstands with
  | reading hwaits _ =>
    rw [hwaits.not_succeeded hx] at ht
    cases ht
  | saved _ _ hwaits =>
    rw [hwaits.not_succeeded hy] at hu
    cases hu
  | overlapped _ _ _ hholds =>
    have hwaits : Thread.Waits s id _ _ _ := .inr ⟨_, hholds⟩
    rw [hwaits.not_succeeded hy] at hu
    cases hu
  | @finished x y _ _ _ _ _ hleave => exact ⟨x, y, .refl _, hleave⟩
  | @swap x y _ _ _ _ ih =>
    obtain ⟨first, last, hperm, hleave⟩ := ih hy hx hu ht
    exact ⟨first, last, hperm.trans (.swap x y []), hleave⟩

/-! ## Scenes of two calls -/

/-- Two calls before their first questions. -/
def Scene.ofTwo (x y : ServiceCall × Tape) (a : Archive) (s : Storage) : Scene := ⟨[.start x, .start y], a, s⟩

/-- At some moment both calls have read their event and neither of them has saved it. -/
def Scene.Overlaps (scene : Scene) (schedule : List Nat) : Prop :=
  ∃ early, early <+: schedule ∧ ∀ t ∈ (scene.run early).threads, t.IsUnderWay

/-- Two calls go on as calls do when the first of them asks its next question. -/
theorem Goes.first_step (hx : x.1.ChangesEvent id) (hy : y.1.ChangesEvent id) {s' : Storage}
    (hgoes : Goes s id overlap a x y t u b s') (hoverlap : t.IsUnderWay → u.IsUnderWay → overlap)
    {program : Program t.call.Answer} (h : t.program.step taped ⟨t.tape, b, s'⟩ = (program, w)) :
    Goes s id overlap a x y (t.after program w) u w.archive w.storage := by
  rcases hgoes with (hfailed | hfailed) | ⟨rfl, hstands⟩
  · rw [(Thread.after_of_ended (.inr hfailed) h).1]
    exact .inl (.inl hfailed)
  · exact .inl (.inr hfailed)
  · exact (hstands.step hx hy hoverlap).1 program w h

/-- Two calls go on as calls do when a schedule lets one of them, or nobody, ask a question. -/
theorem Goes.step (hx : x.1.ChangesEvent id) (hy : y.1.ChangesEvent id) {scene : Scene} (hthreads : scene.threads = [t, u])
    (hgoes : Goes s id overlap a x y t u scene.archive scene.storage)
    (hoverlap : t.IsUnderWay → u.IsUnderWay → overlap) (i : Nat) :
    ∃ t' u', (scene.step i).threads = [t', u'] ∧
      Goes s id overlap a x y t' u' (scene.step i).archive (scene.step i).storage := by
  obtain ⟨threads, b, s'⟩ := scene
  obtain rfl : threads = [t, u] := hthreads
  rcases i with _ | _ | i
  · exact ⟨_, u, rfl, hgoes.first_step hx hy hoverlap rfl⟩
  · exact ⟨t, _, rfl, (hgoes.swap.first_step hy hx (fun hu ht => hoverlap ht hu) rfl).swap⟩
  · exact ⟨t, u, rfl, hgoes⟩

/-- After each part of a schedule two calls stand as calls do. -/
theorem goes_run (hx : x.1.ChangesEvent id) (hy : y.1.ChangesEvent id) {early schedule : List Nat}
    (hearly : early <+: schedule) :
    ∃ t u, ((Scene.ofTwo x y a s).run early).threads = [t, u] ∧
      Goes s id ((Scene.ofTwo x y a s).Overlaps schedule) a x y t u ((Scene.ofTwo x y a s).run early).archive
        ((Scene.ofTwo x y a s).run early).storage := by
  induction early using List.reverseRecOn with
  | nil => exact ⟨.start x, .start y, rfl, .inr ⟨rfl, .reading (.inl rfl) (.inl rfl)⟩⟩
  | append_singleton early i ih =>
    have hprefix : early <+: schedule := (List.prefix_append early [i]).trans hearly
    obtain ⟨t, u, hthreads, hgoes⟩ := ih hprefix
    have hrun : (Scene.ofTwo x y a s).run (early ++ [i]) = ((Scene.ofTwo x y a s).run early).step i := by
      unfold Scene.run
      rw [List.foldl_concat]
    rw [hrun]
    refine hgoes.step hx hy hthreads (fun ht hu => ⟨early, hprefix, ?_⟩) i
    rw [hthreads]
    simp [ht, hu]

/-- Two calls update or delete one event, in any order of their questions, and both of them succeed. Either the rows are what
the calls leave in turn, in one order or the other; or there was a moment when both had read the event and neither had saved
it, the last one to save is an update, and the rows are what it leaves by itself, with nothing of what the other one changed. -/
theorem event_changes_in_turn_or_overwritten (id : Uuid) (x y : ServiceCall × Tape) (hx : x.1.ChangesEvent id)
    (hy : y.1.ChangesEvent id) (a : Archive) (s : Storage) (schedule : List Nat)
    (hdone : ∀ t ∈ ((Scene.ofTwo x y a s).run schedule).threads, t.succeeded = true) :
    ∃ first last, [first, last].Perm [x, y] ∧
      ChangesLeave s id ((Scene.ofTwo x y a s).Overlaps schedule) a first last
        ((Scene.ofTwo x y a s).run schedule).archive := by
  obtain ⟨t, u, hthreads, hgoes⟩ := goes_run (a := a) (s := s) hx hy (List.prefix_refl schedule)
  rw [hthreads] at hdone
  have ht : t.succeeded = true := hdone t (by simp)
  have hu : u.succeeded = true := hdone u (by simp)
  rcases hgoes with (⟨f, hf⟩ | ⟨f, hf⟩) | ⟨-, hstands⟩
  · rw [Thread.succeeded, hf] at ht
    cases ht
  · rw [Thread.succeeded, hf] at hu
    cases hu
  · exact hstands.changesLeave hx hy ht hu

/-- The first event of the small album is renamed. -/
def renameTour : ServiceCall × Tape :=
  (.updateEvent (.ofNat 1) ⟨.value "Grand Tour", .absent, .absent⟩, ⟨[⟨.first, .ofParts 17 0 0 0⟩], []⟩)

/-- The first event of the small album is deleted. -/
def deleteTour : ServiceCall × Tape := (.deleteEvent (.ofNat 1), ⟨[⟨.first, .ofParts 18 0 0 0⟩], []⟩)

/-- The event is read to be renamed, then it is deleted, then it is saved with its new name. -/
def deletedInBetween : List Nat := [0, 1, 1, 1, 0, 0]

/-- The renaming and the deletion both succeed, and the small album is left as one of the two ways say. -/
theorem renameTour_deleteTour_leave :
    let scene := Scene.ofTwo renameTour deleteTour .smallAlbum smallStorage
    (renameTour.1.ChangesEvent (.ofNat 1) ∧ deleteTour.1.ChangesEvent (.ofNat 1) ∧
      ∀ t ∈ (scene.run deletedInBetween).threads, t.succeeded = true) ∧
    ∃ first last, [first, last].Perm [renameTour, deleteTour] ∧
      ChangesLeave smallStorage (.ofNat 1) (scene.Overlaps deletedInBetween) .smallAlbum first last
        (scene.run deletedInBetween).archive := by
  intro scene
  have hx : renameTour.1.ChangesEvent (.ofNat 1) := .inl ⟨_, rfl⟩
  have hy : deleteTour.1.ChangesEvent (.ofNat 1) := .inr rfl
  have hdone : ∀ t ∈ (scene.run deletedInBetween).threads, t.succeeded = true := by decide +kernel
  exact ⟨⟨hx, hy, hdone⟩, event_changes_in_turn_or_overwritten (.ofNat 1) renameTour deleteTour hx hy .smallAlbum smallStorage
    deletedInBetween hdone⟩

/-- The deletion is undone by the renaming: both succeed, and the event is there in the end, which it is not after the two
calls in turn, in whichever order. -/
theorem deletion_overwritten :
    let final := (Scene.ofTwo renameTour deleteTour .smallAlbum smallStorage).run deletedInBetween
    let isThere (a : Archive) : Bool := (a.activeEvent? (.ofNat 1)).isSome
    (final.threads.length = 2 ∧ ∀ t ∈ final.threads, t.succeeded = true) ∧ isThere final.archive = true ∧
      isThere (runAlone smallStorage deleteTour (runAlone smallStorage renameTour .smallAlbum)) = false ∧
      isThere (runAlone smallStorage renameTour (runAlone smallStorage deleteTour .smallAlbum)) = false := by
  decide +kernel

end RaceAlbum
