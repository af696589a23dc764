import RaceAlbum.Proofs.Archive.Statements
import RaceAlbum.Proofs.World.Tape

/-!
# Changes of events

A call that changes an event reads its row, draws moments, and saves the row that it makes of what it read; `ServiceCall.edits`
says which row that is. Nothing else passes between the one question and the other: what is saved does not depend on the row
that is there by then (`Saves.step`), and where a row is saved over another the first one leaves no trace
(`Archive.saveEvent_over`).
-/

namespace RaceAlbum

open Program

variable {α β : Type}

namespace ServiceCall

/-- The call updates an event or deletes it. -/
def ChangesEvent (id : Uuid) (c : ServiceCall) : Prop := (∃ patch, c = .updateEvent id patch) ∨ c = .deleteEvent id

/-- The call updates an event. -/
def isUpdate : ServiceCall → Bool
  | updateEvent .. => true
  | _ => false

/-- The row that a call makes of the row of its event at a moment. A deleted event is not found, and its row stays. -/
def edits (c : ServiceCall) (m : Moment) (r : EventRow) : EventRow :=
  if r.isActive then
    match c with
    | updateEvent _ patch =>
      { r with
        name := patch.name.toOption.getD r.name
        date := patch.date.toOption.getD r.date
        location := if patch.location.isPresent then patch.location.toOption else r.location
        updatedAt := m }
    | deleteEvent _ => { r with updatedAt := m, deletedAt := some m }
    | _ => r
  else r

/-- A row that is changed keeps its identifier. -/
theorem edits_id (c : ServiceCall) (m : Moment) (r : EventRow) : (c.edits m r).id = r.id := by
  unfold edits
  split
  · split <;> rfl
  · rfl

/-- The row of a deleted event stays. -/
theorem edits_of_deleted (c : ServiceCall) (m : Moment) {r : EventRow} (h : r.isActive = false) : c.edits m r = r := by
  unfold edits
  rw [h]
  rfl

/-- After a deletion the event is deleted. -/
theorem delete_edits_isActive (id : Uuid) (m : Moment) (r : EventRow) :
    ((deleteEvent id).edits m r).isActive = false := by
  unfold edits
  split
  · rfl
  · exact Bool.eq_false_iff.2 ‹_›

end ServiceCall

/-- The event is what a call makes of a row. Its last change bears the offset of the clock, by which saving it always counts
as a change. -/
structure Event.IsEdit (e : Event) (c : ServiceCall) (r : EventRow) : Prop where
  row : ∃ m, .ofEntity e = c.edits m r
  stamped : e.audit.updatedAt.isBare = false

/-- What a call makes of a row has the identifier of the row. -/
theorem Event.IsEdit.id {e : Event} {c : ServiceCall} {r : EventRow} (h : e.IsEdit c r) : e.id = r.id := by
  obtain ⟨m, hm⟩ := h.row
  have hid : (EventRow.ofEntity e).id = (c.edits m r).id := congrArg EventRow.id hm
  rw [c.edits_id] at hid
  exact hid

/-! ## Programs that draw -/

/-- A program that asks for moments and identifiers only. Whatever it is given, it fails or its result has a property. -/
inductive Draws (P : α → Prop) : Program α → Prop where
  | done {a : α} : P a → Draws P (.done a)
  | failed (f : Failure) : Draws P (.failed f)
  | ask {p : Port} {next : Except Failure p.Answer → Program α} :
      p.addressee = .supply → (∀ r, Draws P (next r)) → Draws P (.ask p next)

namespace Draws

variable {P : α → Prop} {Q : β → Prop}

theorem bind {x : Program α} {k : α → Program β} (hx : Draws P x) (hk : ∀ a, P a → Draws Q (k a)) :
    Draws Q (x >>= k) := by
  change Draws Q (Program.bind x k)
  induction hx with
  | done ha => exact hk _ ha
  | failed f => exact .failed f
  | ask hp _ ih => exact .ask hp ih

/-- A program of which no more is known. -/
theorem of_asksSupply {x : Program α} (hx : AsksSupply x) : Draws (fun _ => True) x := by
  induction hx with
  | done a => exact .done trivial
  | failed f => exact .failed f
  | ask hp _ ih => exact .ask hp ih

theorem readClock : Draws (fun s => ∃ m, s = Stamp.ofUtc m) Program.readClock := by
  refine .ask rfl fun r => ?_
  cases r with
  | ok m => exact .done ⟨m, rfl⟩
  | error f => exact .failed f

end Draws

/-- A changed name is set. -/
theorem Event.rename_eq {e e' : Event} {name? : Option String} (h : e.rename name? = .ok e') :
    e' = { e with name := name?.getD e.name } := by
  unfold Event.rename at h
  split at h
  · cases h
    rfl
  · split at h
    · cases h
      rfl
    · cases h

/-- The event of a row with the fields of an update is the event of the updated row. -/
theorem ofEntity_update {r : EventRow} (hr : r.isActive = true) (id : Uuid) (patch : EventPatch) (m : Moment) :
    let c := Event.Changes.ofPatch patch
    EventRow.ofEntity { r.entity with
      name := c.name.getD r.name
      date := c.date.getD r.date
      location := c.location.getD r.location
      audit := { r.entity.audit with updatedAt := .ofUtc m } } = (ServiceCall.updateEvent id patch).edits m r := by
  intro c
  have hdeleted : r.deletedAt = none := Option.isNone_iff_eq_none.1 hr
  have hlocation : c.location.getD r.location =
      if patch.location.isPresent then patch.location.toOption else r.location := by
    simp only [c, Event.Changes.ofPatch]
    split <;> rfl
  unfold ServiceCall.edits
  rw [if_pos hr]
  simp only [EventRow.ofEntity, hlocation]
  simp only [EventRow.entity, hdeleted, Stamp.ofUtc, Option.map_none]
  rfl

/-- An update makes of the event of a row what it makes of the row, or is refused. -/
theorem update_draws {r : EventRow} (hr : r.isActive = true) (id : Uuid) (patch : EventPatch) :
    Draws (fun q => q.2 = none → q.1.IsEdit (.updateEvent id patch) r) (r.entity.update (.ofPatch patch)) := by
  unfold Event.update
  split
  · exact .done nofun
  · rename_i e hrename
    refine (Draws.of_asksSupply (changedDate_asksSupply _).attempt).bind fun answer _ => ?_
    cases answer with
    | error f => exact .done nofun
    | ok u =>
      refine Draws.readClock.bind fun s hs => ?_
      obtain ⟨m, rfl⟩ := hs
      refine .done fun _ => ⟨⟨m, ?_⟩, rfl⟩
      obtain rfl := Event.rename_eq hrename
      exact ofEntity_update hr id patch m

/-- A deletion makes of the event of a row what it makes of the row. -/
theorem softDelete_draws {r : EventRow} (hr : r.isActive = true) (id : Uuid) :
    Draws (fun e => e.IsEdit (.deleteEvent id) r) r.entity.softDelete := by
  refine Draws.readClock.bind fun s hs => ?_
  obtain ⟨m, rfl⟩ := hs
  refine .done ⟨⟨m, ?_⟩, rfl⟩
  unfold ServiceCall.edits
  rw [if_pos hr]
  rfl

/-! ## Programs that save -/

/-- A program that draws and then saves an event with a property, and that ends with the answer to that. -/
inductive Saves (Q : Event → Prop) : Program α → Prop where
  | failed (f : Failure) : Saves Q (.failed f)
  | ask {p : Port} {next : Except Failure p.Answer → Program α} :
      p.addressee = .supply → (∀ r, Saves Q (next r)) → Saves Q (.ask p next)
  | save {e : Event} {next : Except Failure Event → Program α} : Q e → (∀ f, ∃ g, next (.error f) = .failed g) →
      (∀ saved, ∃ a, next (.ok saved) = .done a) → Saves Q (.ask (.saveEvent e) next)

theorem Draws.saves {P : α → Prop} {Q : Event → Prop} {x : Program α} {k : α → Program β} (hx : Draws P x)
    (hk : ∀ a, P a → Saves Q (k a)) : Saves Q (x >>= k) := by
  change Saves Q (Program.bind x k)
  induction hx with
  | done ha => exact hk _ ha
  | failed f => exact .failed f
  | ask hp _ ih => exact .ask hp ih

theorem save_saves {Q : Event → Prop} {e : Event} (he : Q e) : Saves Q (EventService.save e) :=
  .save he (fun f => ⟨f, rfl⟩) fun saved => ⟨saved.id, rfl⟩

/-- What a program that saves does with its next question. It may have failed. It may have drawn something, and then it goes
on as it would have over any rows. Or it has saved an event and is done, and it would have saved that event over any rows. -/
theorem Saves.step {Q : Event → Prop} {x x' : Program α} (hx : Saves Q x) {t : Tape} {b : Archive} {s : Storage}
    {w : World Tape} (h : x.step taped ⟨t, b, s⟩ = (x', w)) :
    w.storage = s ∧
      ((∃ f, x' = .failed f) ∨
        (w.archive = b ∧ Saves Q x' ∧ ∀ b', run taped x ⟨t, b', s⟩ = run taped x' ⟨w.supply, b', s⟩) ∨
        ∃ e a, x' = .done a ∧ Q e ∧ b.saveEvent e = .ok w.archive ∧
          ∀ b' b'', b'.saveEvent e = .ok b'' → (run taped x ⟨t, b', s⟩).2.archive = b'') := by
  cases hx with
  | failed f =>
    obtain ⟨rfl, rfl⟩ := Prod.mk.inj h
    exact ⟨rfl, .inl ⟨f, rfl⟩⟩
  | @ask p next hp hnext =>
    have hdraw (b' : Archive) : taped p ⟨t, b', s⟩ = ((Tape.answer p t).1, ⟨(Tape.answer p t).2, b', s⟩) :=
      World.answerWith_supply hp _
    change (next (taped p ⟨t, b, s⟩).1, (taped p ⟨t, b, s⟩).2) = (x', w) at h
    rw [hdraw] at h
    obtain ⟨rfl, rfl⟩ := Prod.mk.inj h
    refine ⟨rfl, .inr (.inl ⟨rfl, hnext _, fun b' => ?_⟩)⟩
    change run taped (next (taped p ⟨t, b', s⟩).1) (taped p ⟨t, b', s⟩).2 = _
    rw [hdraw]
  | @save e next he herror hok =>
    -- what the archive answers, and what it holds then
    let write (b' : Archive) := b'.write e.assumeUtc [fun a => a.saveEvent e]
    change (next (write b).1, (⟨t, (write b).2, s⟩ : World Tape)) = (x', w) at h
    obtain ⟨rfl, rfl⟩ := Prod.mk.inj h
    refine ⟨rfl, ?_⟩
    rcases hb : write b with ⟨f | saved, b₁⟩
    · exact .inl (herror f)
    · obtain ⟨a, ha⟩ := hok saved
      refine .inr (.inr ⟨e, a, ha, he, (Archive.write_ok hb).1, fun b' b'' hsave => ?_⟩)
      obtain ⟨a', ha'⟩ := hok e.assumeUtc
      have hwrite : write b' = (.ok e.assumeUtc, b'') := Archive.write_of_ok e.assumeUtc hsave
      change (run taped (next (write b').1) (⟨t, (write b').2, s⟩ : World Tape)).2.archive = b''
      rw [hwrite, ha']
      rfl

/-- A call that changes an event asks for it first, and saves what it makes of the row that it is given. -/
theorem ServiceCall.ChangesEvent.program_eq {id : Uuid} {c : ServiceCall} (hc : c.ChangesEvent id) :
    ∃ next : Except Failure (Option Event) → Program c.Answer, c.program = .ask (.findEvent id) next ∧
      (∃ f, next (.ok none) = .failed f) ∧
      ∀ r : EventRow, r.isActive = true → Saves (fun e => e.IsEdit c r) (next (.ok (some r.entity))) := by
  rcases hc with ⟨patch, rfl⟩ | rfl
  · refine ⟨_, rfl, ⟨_, rfl⟩, fun r hr => ?_⟩
    refine (update_draws hr id patch).saves fun q hq => ?_
    obtain ⟨e, _ | f⟩ := q
    · exact save_saves (hq rfl)
    · exact .failed f
  · refine ⟨_, rfl, ⟨_, rfl⟩, fun r hr => ?_⟩
    exact (softDelete_draws hr id).saves fun e he => save_saves he

/-! ## Rows that are saved over others -/

/-- A row that is put in its place leaves no trace of the one that was put there before. -/
theorem upsert_upsert {ρ : Type} {key : ρ → Uuid} {r r₁ : ρ} {rows : List ρ} (hkey : key r₁ = key r)
    (h : ∃ s ∈ rows, key s = key r) : upsert key r (upsert key r₁ rows) = upsert key r rows := by
  have hfirst : ∃ s ∈ rows, key s = key r₁ := by
    rw [hkey]
    exact h
  have hsecond : ∃ s ∈ upsert key r₁ rows, key s = key r := ⟨r₁, mem_upsert.2 (.inl rfl), hkey⟩
  rw [upsert_of_present hsecond, upsert_of_present hfirst, upsert_of_present h, List.map_map]
  refine List.map_congr_left fun s _ => ?_
  by_cases hs : key s = key r
  · simp [hs, hkey]
  · simp [hs, hkey]

namespace Archive

variable {a b : Archive}

/-- An event whose last change bears an offset is saved over a row wherever changes are allowed and its numbers fit. -/
theorem saveEvent_eq {e : Event} (hstamped : e.audit.updatedAt.isBare = false) (h : ∃ s ∈ a.events, s.id = e.id) :
    a.saveEvent e = (do
      ensureIntegers (EventRow.ofEntity e).integers
      ensure (!a.isBlocked .events .update) (.violation .blocked)
      return { a with events := upsert EventRow.id (.ofEntity e) a.events }) := by
  have hchanges (stored : EventRow) : changesRow stored (.ofEntity e) e.audit.stamps = true := by
    simp [changesRow, Audit.stamps, hstamped]
  obtain ⟨stored, hfind⟩ : ∃ stored, a.events.find? (fun s => s.id == (EventRow.ofEntity e).id) = some stored := by
    obtain ⟨s, hs, hid⟩ := h
    rw [← Option.isSome_iff_exists, List.find?_isSome]
    exact ⟨s, hs, beq_iff_eq.2 hid⟩
  unfold saveEvent upsert
  simp only [hfind, hchanges, Bool.true_and]

/-- What was saved before in the same place makes no difference. -/
theorem saveEvent_over {e e₁ : Event} (hstamped : e.audit.updatedAt.isBare = false) (hid : e₁.id = e.id)
    (h : ∃ s ∈ a.events, s.id = e.id) (hfirst : a.saveEvent e₁ = .ok b) : b.saveEvent e = a.saveEvent e := by
  obtain rfl := saveEvent_ok hfirst
  have hthere : ∃ s ∈ upsert EventRow.id (.ofEntity e₁) a.events, s.id = e.id := ⟨_, mem_upsert.2 (.inl rfl), hid⟩
  have hsame : upsert EventRow.id (.ofEntity e) (upsert EventRow.id (.ofEntity e₁) a.events) =
      upsert EventRow.id (.ofEntity e) a.events := upsert_upsert hid h
  rw [saveEvent_eq hstamped h, saveEvent_eq hstamped hthere, hsame]
  rfl

end Archive

end RaceAlbum
