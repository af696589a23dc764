import RaceAlbum.Proofs.Service.Effects
import RaceAlbum.Proofs.Service.Recordable
import RaceAlbum.Proofs.World.Supplies

/-!
# How calls with an accepted event end

A name that a form accepted is one that the rules accept, and the numbers of an event do not change with it. So where a supply
never runs out and no change is forbidden, a call that creates an event saves it or refuses its day (`createEvent_ends`), and
a call that changes one may find none besides (`updateEvent_ends`). There is no other end.
-/

namespace RaceAlbum

open Program

/-! ## What was accepted -/

/-- A text between two limits has as many characters as they say. -/
theorem Reader.boundedText_ok {least most : Nat} {s : String} {v : Value} (h : boundedText least most v = .ok s) :
    least ≤ s.length ∧ s.length ≤ most := by
  obtain ⟨t, -, h⟩ := Checked.andThen_eq_ok_iff.1 h
  split at h
  · cases h
  split at h
  · cases h
  cases h
  exact ⟨Nat.not_lt.1 ‹_›, Nat.not_lt.1 ‹_›⟩

/-- The name of an event that was accepted has the right length. -/
theorem isEventName_of_read {name : String} {v : Value} (h : Reader.boundedText nameMin nameMax v = .ok name) :
    isEventName name = true := by
  obtain ⟨hleast, hmost⟩ := Reader.boundedText_ok h
  simp [isEventName, hleast, hmost]

theorem NewEvent.isEventName_of_read {fields : Fields} {n : NewEvent} (h : NewEvent.form.read fields = .ok n) :
    isEventName n.name = true := by
  obtain ⟨f, location, hf, -, rfl⟩ := Checked.seq_eq_ok_iff.1 h
  obtain ⟨g, date, hg, -, rfl⟩ := Checked.seq_eq_ok_iff.1 hf
  obtain ⟨name, hname, rfl⟩ := Checked.map_eq_ok_iff.1 hg
  obtain ⟨v, hv⟩ := MemberName.required_ok hname
  exact RaceAlbum.isEventName_of_read hv

/-- A field of a change that has a value was read from some value. -/
theorem FieldEntry.read_ok {α : Type} {n : MemberName} {r : Reader α} {fields : Fields} {e : FieldEntry α} {a : α}
    (h : FieldEntry.read n r fields = .ok e) (ha : a ∈ e.toOption) : ∃ v, r v = .ok a := by
  unfold read at h
  split at h
  · cases h
    cases ha
  · obtain ⟨a?, hread, rfl⟩ := Checked.map_eq_ok_iff.1 h
    cases a? with
    | none => cases ha
    | some b =>
      cases ha
      exact Reader.optional_ok (Checked.under_eq_ok_iff.1 hread)

/-- Each field of a change was read from its member. -/
theorem EventPatch.fields_read {fields : Fields} {patch : EventPatch} (h : EventPatch.form.read fields = .ok patch) :
    FieldEntry.read .name (Reader.boundedText nameMin nameMax) fields = .ok patch.name ∧
      FieldEntry.read .date eventDay fields = .ok patch.date ∧
      FieldEntry.read .location (Reader.boundedText 0 locationMax) fields = .ok patch.location := by
  obtain ⟨f, location, hf, hlocation, rfl⟩ := Checked.seq_eq_ok_iff.1 h
  obtain ⟨g, date, hg, hdate, rfl⟩ := Checked.seq_eq_ok_iff.1 hf
  obtain ⟨name, hname, rfl⟩ := Checked.map_eq_ok_iff.1 hg
  exact ⟨hname, hdate, hlocation⟩

theorem EventPatch.isEventName_of_read {fields : Fields} {patch : EventPatch}
    (h : EventPatch.form.read fields = .ok patch) : ∀ name ∈ patch.name.toOption, isEventName name = true := by
  intro name hname
  obtain ⟨v, hv⟩ := FieldEntry.read_ok (EventPatch.fields_read h).1 hname
  exact RaceAlbum.isEventName_of_read hv

/-! ## Events that can be saved -/

namespace Archive

variable {a : Archive}

/-- No change is forbidden, and the numbers of all events have 64 bits. -/
structure SavesEvents (a : Archive) : Prop where
  unblocked : a.blocks = []
  integers : ∀ row ∈ a.events, row.integers.all isInt64 = true

/-- An event is saved where no change is forbidden, if its numbers have 64 bits. -/
theorem saveEvent_of_unblocked {e : Event} (ha : a.blocks = [])
    (hintegers : (EventRow.ofEntity e).integers.all isInt64 = true) : ∃ a', a.saveEvent e = .ok a' := by
  unfold saveEvent ensureIntegers
  rw [ensure_bind_of hintegers]
  split
  · have hupdate (changes : Bool) : (!(changes && a.isBlocked .events .update)) = true := by
      simp [isBlocked, ha]
    rw [ensure_bind_of (hupdate _)]
    exact ⟨_, rfl⟩
  · unfold ensureAllowed
    rw [ensure_bind_of (isBlocked_of_unblocked ha _ _)]
    exact ⟨_, rfl⟩

end Archive

/-! ## Ends of calls -/

variable {σ : Type} {supply : Handler σ} {w : World σ}

/-- An event that the archive saves is told by its identifier. -/
theorem save_run_of_ok (supply : Handler σ) {e : Event} {a' : Archive}
    (h : w.archive.saveEvent e = .ok a') :
    run (World.answerWith supply) (EventService.save e) w = (.ok e.id, { w with archive := a' }) := by
  have hcall : run (World.answerWith supply) (call (.saveEvent e)) w = (.ok e.assumeUtc, { w with archive := a' }) := by
    have hwrite : Archive.answer (.saveEvent e) w.archive = (.ok e.assumeUtc, a') := Archive.write_of_ok _ h
    rw [run_call, World.answerWith_archive rfl, hwrite]
  exact (run_bind_of_ok hcall).trans rfl

/-- A saved event is told by its identifier. -/
theorem saveEvent_run (supply : Handler σ) {e : Event} (hw : w.archive.blocks = [])
    (hintegers : (EventRow.ofEntity e).integers.all isInt64 = true) :
    ∃ w', run (World.answerWith supply) (EventService.save e) w = (.ok e.id, w') := by
  obtain ⟨a', hsave⟩ := Archive.saveEvent_of_unblocked hw hintegers
  exact ⟨{ w with archive := a' }, save_run_of_ok supply hsave⟩

/-- A day is held against one reading of the clock. -/
theorem requireDate_of_reading {h : Handler σ} {s s' : σ} {m : Moment} (d : Date)
    (hclock : run h readClock s = (.ok (.ofUtc m), s')) : run h (Event.requireDate d) s =
      (if m.date.key ≤ d.key then .ok () else .error (.ofRule .dateInPast), s') := by
  refine (run_bind_of_ok hclock).trans ?_
  change run h (require (decide (m.date.key ≤ d.key)) .dateInPast) s' = _
  by_cases hday : m.date.key ≤ d.key
  · rw [decide_eq_true hday, if_pos hday]
    rfl
  · rw [decide_eq_false hday, if_neg hday]
    rfl

/-- A day is past by the clock, or it is accepted. -/
theorem requireDate_run (hsupply : supply.Supplies) (d : Date) (w : World σ) : ∃ r w',
    run (World.answerWith supply) (Event.requireDate d) w = (r, w') ∧ World.SameStores w w' ∧
      (r = .ok () ∨ r = .error (.ofRule .dateInPast)) := by
  obtain ⟨m, w', hclock⟩ := (World.answerWith_supplies hsupply).run_readClock w
  have hsame := readClock_asksSupply.noWrite.run_sameStores hclock
  refine ⟨_, w', requireDate_of_reading d hclock, hsame, ?_⟩
  split
  · exact .inl rfl
  · exact .inr rfl

section NewEvent

variable {h : Handler σ} {s s₁ s₂ s₃ : σ} {n : NewEvent}

/-- A new event whose day is refused is not made. -/
theorem Event.create_run_of_refused {f : Failure} (hname : isEventName n.name = true)
    (hdate : run h (requireDate n.date) s = (.error f, s₁)) : run h (create n) s = (.error f, s₁) := by
  unfold create
  rw [require_bind_of hname]
  exact run_bind_of_error hdate

/-- A new event whose day is accepted is a draft of the next identifier, created at the next reading of the clock. -/
theorem Event.create_run_of_accepted {id : Uuid} {now : Stamp} (hname : isEventName n.name = true)
    (hdate : run h (requireDate n.date) s = (.ok (), s₁)) (hid : run h takeId s₁ = (.ok id, s₂))
    (hclock : run h readClock s₂ = (.ok now, s₃)) :
    run h (create n) s = (.ok ⟨id, n.name, n.date, n.location, .draft, 0, 0, ⟨now, now, none⟩⟩, s₃) := by
  have hstart : run h Audit.start s₂ = (.ok ⟨now, now, none⟩, s₃) := (run_bind_of_ok hclock).trans rfl
  unfold create
  rw [require_bind_of hname, run_bind_of_ok hdate, run_bind_of_ok hid, run_bind_of_ok hstart]
  rfl

end NewEvent

/-- A new event whose name was accepted is made, with numbers of 64 bits, or its day is refused. -/
theorem newEvent_run (hsupply : supply.Supplies) {n : NewEvent} (hname : isEventName n.name = true) (w : World σ) :
    ∃ r w', run (World.answerWith supply) (Event.create n) w = (r, w') ∧ World.SameStores w w' ∧
      ((∃ e, r = .ok e ∧ (EventRow.ofEntity e).integers.all isInt64 = true) ∨ r = .error (.ofRule .dateInPast)) := by
  obtain ⟨r, w₁, hdate, hsame, hr⟩ := requireDate_run hsupply n.date w
  rcases hr with rfl | rfl
  · obtain ⟨id, w₂, hid⟩ := (World.answerWith_supplies hsupply).run_takeId w₁
    obtain ⟨m, w₃, hclock⟩ := (World.answerWith_supplies hsupply).run_readClock w₂
    have hdrawn : World.SameStores w₁ w₃ := (takeId_asksSupply.noWrite.run_sameStores hid).trans
      (readClock_asksSupply.noWrite.run_sameStores hclock)
    exact ⟨_, w₃, Event.create_run_of_accepted hname hdate hid hclock, hsame.trans hdrawn, .inl ⟨_, rfl, rfl⟩⟩
  · exact ⟨_, w₁, Event.create_run_of_refused hname hdate, hsame, .inr rfl⟩

/-- A call that creates an event whose name was accepted saves it, or it refuses its day. -/
theorem createEvent_ends (hsupply : supply.Supplies) {n : NewEvent} (hw : w.archive.blocks = [])
    (hname : isEventName n.name = true) : ∃ r w', run (World.answerWith supply) (EventService.create n) w = (r, w') ∧
      ((∃ id, r = .ok id) ∨ r = .error (.ofRule .dateInPast)) := by
  obtain ⟨r, w₁, hcreate, hsame, ⟨e, rfl, hintegers⟩ | rfl⟩ := newEvent_run hsupply hname w
  · obtain ⟨w₂, hsave⟩ := saveEvent_run supply (hsame.1 ▸ hw) hintegers
    exact ⟨_, w₂, (run_bind_of_ok hcreate).trans hsave, .inl ⟨e.id, rfl⟩⟩
  · exact ⟨_, w₁, run_bind_of_error hcreate, .inr rfl⟩

namespace Event

/-- An accepted name is set. -/
theorem rename_of_accepted {name? : Option String} (e : Event) (h : ∀ name ∈ name?, isEventName name = true) :
    e.rename name? = .ok { e with name := name?.getD e.name } := by
  unfold rename
  cases name? with
  | none => rfl
  | some name => exact if_pos (h name rfl)

variable {h : Handler σ} {s s₁ s₂ : σ} {e e₁ : Event} {c : Changes}

/-- An update whose day is refused changes the name alone, and tells why. -/
theorem update_run_of_refused {f : Failure} (hrename : e.rename c.name = .ok e₁)
    (hdate : run h (c.date.elim (pure ()) requireDate) s = (.error f, s₁)) :
    run h (e.update c) s = (.ok (e₁, some f), s₁) := by
  unfold update
  rw [hrename]
  cases hd : c.date with
  | none =>
    rw [hd] at hdate
    exact (run_attempt_bind_of hdate).trans rfl
  | some d =>
    rw [hd] at hdate
    exact (run_attempt_bind_of hdate).trans rfl

/-- An update whose day is accepted sets what it changes, and the moment of the change. -/
theorem update_run_of_accepted {now : Stamp} (hrename : e.rename c.name = .ok e₁)
    (hdate : run h (c.date.elim (pure ()) requireDate) s = (.ok (), s₁)) (hclock : run h readClock s₁ = (.ok now, s₂)) :
    run h (e.update c) s = (.ok ({ e₁ with
      date := c.date.getD e₁.date
      location := c.location.getD e₁.location
      audit := { e₁.audit with updatedAt := now } }, none), s₂) := by
  unfold update
  rw [hrename]
  cases hd : c.date with
  | none =>
    rw [hd] at hdate
    exact (run_attempt_bind_of hdate).trans ((run_bind_of_ok hclock).trans rfl)
  | some d =>
    rw [hd] at hdate
    exact (run_attempt_bind_of hdate).trans ((run_bind_of_ok hclock).trans rfl)

end Event

/-- An event is changed as it was accepted, with the numbers that it had, or the day is refused. -/
theorem changeEvent_run (hsupply : supply.Supplies) {e : Event} {patch : EventPatch}
    (hname : ∀ name ∈ patch.name.toOption, isEventName name = true) (w : World σ) :
    ∃ e' f? w', run (World.answerWith supply) (e.update (.ofPatch patch)) w = (.ok (e', f?), w') ∧
      World.SameStores w w' ∧ (EventRow.ofEntity e').integers = (EventRow.ofEntity e).integers ∧
      (f? = none ∧ e'.id = e.id ∨ f? = some (.ofRule .dateInPast)) := by
  have hrename := e.rename_of_accepted hname
  obtain ⟨r, w₁, hdate, hsame, hr⟩ : ∃ r w₁,
      run (World.answerWith supply) (patch.date.toOption.elim (pure ()) Event.requireDate) w = (r, w₁) ∧
        World.SameStores w w₁ ∧ (r = .ok () ∨ r = .error (.ofRule .dateInPast)) := by
    cases patch.date.toOption with
    | none => exact ⟨_, w, rfl, .refl w, .inl rfl⟩
    | some d => exact requireDate_run hsupply d w
  rcases hr with rfl | rfl
  · obtain ⟨m, w₂, hclock⟩ := (World.answerWith_supplies hsupply).run_readClock w₁
    exact ⟨_, none, w₂, Event.update_run_of_accepted hrename hdate hclock,
      hsame.trans (readClock_asksSupply.noWrite.run_sameStores hclock), rfl, .inl ⟨rfl, rfl⟩⟩
  · exact ⟨_, _, w₁, Event.update_run_of_refused hrename hdate, hsame, rfl, .inr rfl⟩

/-- An event is looked up, and nothing changes. -/
theorem call_findEvent_run (supply : Handler σ) (id : Uuid) (w : World σ) :
    run (World.answerWith supply) (call (.findEvent id)) w =
      (.ok ((w.archive.activeEvent? id).map EventRow.entity), w) := by
  rw [run_call, World.answerWith_archive rfl]
  rfl

/-- An event that is not deleted is found. -/
theorem findEvent_run (supply : Handler σ) {id : Uuid} {row : EventRow} (h : w.archive.activeEvent? id = some row) :
    run (World.answerWith supply) (EventService.find id) w = (.ok row.entity, w) := by
  have hcall := call_findEvent_run supply id w
  rw [h] at hcall
  exact (run_bind_of_ok hcall).trans rfl

/-- A call that changes an event finds none that is not deleted, or it saves it, or it refuses its day. -/
theorem updateEvent_ends (hsupply : supply.Supplies) {patch : EventPatch} (hw : w.archive.SavesEvents)
    (hname : ∀ name ∈ patch.name.toOption, isEventName name = true) (id : Uuid) :
    ∃ r w', run (World.answerWith supply) (EventService.update id patch) w = (r, w') ∧
      (¬w.archive.HasActiveEvent id ∧ r = .error (.notFound EventService.entity id) ∨
        w.archive.HasActiveEvent id ∧ (r = .ok id ∨ r = .error (.ofRule .dateInPast))) := by
  cases hfind : w.archive.activeEvent? id with
  | none =>
    have hmissing := Archive.activeEvent?_eq_none_iff.1 hfind
    have hcall := call_findEvent_run supply id w
    rw [hfind] at hcall
    exact ⟨_, w, run_bind_of_error ((run_bind_of_ok hcall).trans rfl), .inl ⟨hmissing, rfl⟩⟩
  | some row =>
    obtain ⟨hrow, hactive, hid⟩ := Archive.activeEvent?_eq_some hfind
    have hfound := findEvent_run supply hfind
    obtain ⟨e, f?, w₁, hupdate, hsame, hintegers, hend⟩ := changeEvent_run hsupply hname w (e := row.entity)
    have hthere : w.archive.HasActiveEvent id := ⟨row, hrow, hactive, hid⟩
    rcases hend with ⟨rfl, heid⟩ | rfl
    · have hfits : (EventRow.ofEntity e).integers.all isInt64 = true := by
        rw [hintegers]
        exact hw.integers row hrow
      obtain ⟨w₂, hsave⟩ := saveEvent_run supply (hsame.1 ▸ hw.unblocked) hfits
      have hsaved : e.id = id := heid.trans hid
      rw [hsaved] at hsave
      exact ⟨_, w₂, (run_bind_of_ok hfound).trans ((run_bind_of_ok hupdate).trans hsave), .inr ⟨hthere, .inl rfl⟩⟩
    · exact ⟨_, w₁, (run_bind_of_ok hfound).trans ((run_bind_of_ok hupdate).trans rfl), .inr ⟨hthere, .inr rfl⟩⟩

end RaceAlbum
