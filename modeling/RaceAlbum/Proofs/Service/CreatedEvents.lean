import RaceAlbum.Proofs.Archive.Constraints
import RaceAlbum.Proofs.Archive.EventList
import RaceAlbum.Proofs.Service.PartialUpdates

/-!
# Events that are created

A new event is made of what its message says and of two readings of the clock: the day is held against the first one, and the
second one is the moment of the creation. It is kept as one more row (`Archive.saveEvent_new`), which is found by its
identifier and stands in its place in the list. So an event that is created is shown as it was accepted
(`created_event_is_shown`).
-/

namespace RaceAlbum

open Program

/-- The row of a new event: a draft without photos, created and last changed at one moment. -/
def NewEvent.row (n : NewEvent) (id : Uuid) (now : Moment) : EventRow :=
  ⟨id, n.name, n.date, n.location, .draft, 0, 0, now, now, none⟩

/-- The name of a new event that its form accepts has the right length. -/
theorem NewEvent.isEventName_of_reader {v : Value} {n : NewEvent} (h : NewEvent.form.reader v = .ok n) :
    isEventName n.name = true := by
  unfold Form.reader at h
  split at h
  · exact NewEvent.isEventName_of_read h
  · cases h

/-- An event of a new identifier is added at the end where events may be added and its numbers fit. -/
theorem Archive.saveEvent_new {a : Archive} {e : Event} (hnew : ∀ r ∈ a.events, r.id ≠ e.id)
    (hallowed : a.isBlocked .events .insert = false) (hintegers : (EventRow.ofEntity e).integers.all isInt64 = true) :
    a.saveEvent e = .ok { a with events := a.events ++ [.ofEntity e] } := by
  have hfind : a.events.find? (fun s => s.id == (EventRow.ofEntity e).id) = none := by
    rw [List.find?_eq_none]
    exact fun r hr => mt beq_iff_eq.1 (hnew r hr)
  unfold saveEvent ensureIntegers ensureAllowed
  rw [ensure_bind_of hintegers]
  simp only [hfind]
  rw [ensure_bind_of (by rw [hallowed]; rfl)]
  rfl

/-! ## Runs -/

section Reads

variable {σ : Type} {w : World σ}

/-- An event is looked up to be shown, and nothing changes. -/
theorem call_showEvent_run (supply : Handler σ) (id : Uuid) (w : World σ) :
    run (World.answerWith supply) (call (.showEvent id)) w =
      (.ok ((w.archive.activeEvent? id).map EventRow.detail), w) := by
  rw [run_call, World.answerWith_archive rfl]
  rfl

/-- An event that is not deleted is shown by itself. -/
theorem getEvent_run (supply : Handler σ) {id : Uuid} {row : EventRow} (h : w.archive.activeEvent? id = some row) :
    run (World.answerWith supply) (EventService.get id) w = (.ok row.detail, w) := by
  have hcall := call_showEvent_run supply id w
  rw [h] at hcall
  exact (run_bind_of_ok hcall).trans rfl

/-- A page of the list of events is read off the archive. -/
theorem listEvents_run (supply : Handler σ) (p : Page) (w : World σ) :
    run (World.answerWith supply) (EventService.list p) w = (w.archive.eventPage p, w) :=
  (run_call (.listEvents p) w).trans (World.answerWith_archive rfl w)

/-- An event that is not deleted is shown by itself, and the pages of the list hold it among the others. -/
theorem activeEvent_is_shown (supply : Handler σ) (row : EventRow) (hids : (w.archive.events.map EventRow.id).Nodup)
    (hrow : row ∈ w.archive.events) (hactive : row.deletedAt = none) :
    run (World.answerWith supply) (EventService.get row.id) w = (.ok row.detail, w) ∧
      ∀ limit, 1 ≤ limit → isInt64 (w.archive.events.length + limit) = true → ∃ rows,
        ReadsAll (fun p => (run (World.answerWith supply) (EventService.list p) w).1) limit (rows.map EventRow.listItem) ∧
        w.archive.IsEventList rows ∧ row ∈ rows := by
  have hfind := Archive.activeEvent?_eq hids hrow (Option.isNone_iff_eq_none.2 hactive)
  refine ⟨getEvent_run supply hfind, fun limit hlimit hfit => ?_⟩
  have hlist := Archive.listedEvents_isEventList hids
  refine ⟨_, ?_, hlist, (hlist.active row).2 ⟨hrow, hactive⟩⟩
  simp only [listEvents_run]
  exact Archive.readsAll_eventPage hlimit hfit

end Reads

variable {w : World Tape} {n : NewEvent} {today now : Moment} {ms : List Moment} {id : Uuid} {us : List Uuid}

/-- A new event whose day is past by the first reading is refused. -/
theorem newEvent_run_of_past (hname : isEventName n.name = true) (hclock : w.supply.moments = today :: ms)
    (hday : n.date.key < today.date.key) : run taped (Event.create n) w =
      (.error (.ofRule .dateInPast), { w with supply := ⟨ms, w.supply.ids⟩ }) := by
  have hdate := requireDate_taped (d := n.date) hclock
  rw [if_neg (Nat.not_le.2 hday)] at hdate
  exact Event.create_run_of_refused hname hdate

/-- Another one is made, and the second reading is the moment of its creation. -/
theorem newEvent_run_of_notPast (hname : isEventName n.name = true) (hclock : w.supply.moments = today :: now :: ms)
    (hid : w.supply.ids = id :: us) (hday : today.date.key ≤ n.date.key) :
    run taped (Event.create n) w = (.ok (n.row id now).entity, { w with supply := ⟨ms, us⟩ }) := by
  have hdate := requireDate_taped (d := n.date) hclock
  rw [if_pos hday] at hdate
  have htaken : run taped takeId { w with supply := ⟨now :: ms, w.supply.ids⟩ } =
      (.ok id, { w with supply := ⟨now :: ms, us⟩ }) := takeId_taped hid
  exact Event.create_run_of_accepted hname hdate htaken (readClock_taped rfl)

/-- An event that is created is shown as it was accepted. The form of new events accepts a message; `today` is the reading of
the clock that the day is held against, the identifier that is taken is a new one, and nothing forbids to add events. If the
day is past, the event is refused, and neither rows nor objects change. There is no other refusal: if the day is not past, the
event is kept as one more row. It is shown by itself with the name, the day and the place that were accepted, as a draft
without photos that was created and last changed at the next reading. The pages of the list, of whatever size as long as 64
bits can count them, hold every event that is not deleted, this one among them, once and in the order of the list. -/
theorem created_event_is_shown {v : Value} (hread : NewEvent.form.reader v = .ok n)
    (hids : (w.archive.events.map EventRow.id).Nodup) (hnew : ∀ r ∈ w.archive.events, r.id ≠ id)
    (hallowed : w.archive.isBlocked .events .insert = false) (hclock : w.supply.moments = today :: now :: ms)
    (hsupply : w.supply.ids = id :: us) :
    (n.date.key < today.date.key → run taped (EventService.create n) w =
      (.error (.ofRule .dateInPast), { w with supply := ⟨now :: ms, id :: us⟩ })) ∧
    (today.date.key ≤ n.date.key → ∃ w',
      run taped (EventService.create n) w = (.ok id, w') ∧
      w' = ⟨⟨ms, us⟩, { w.archive with events := w.archive.events ++ [n.row id now] }, w.storage⟩ ∧
      run taped (EventService.get id) w' =
        (.ok ⟨⟨id, n.name, n.date, n.location, "draft", 0, 0⟩, .ofUtc now, .ofUtc now⟩, w') ∧
      ∀ limit, 1 ≤ limit → isInt64 (w'.archive.events.length + limit) = true → ∃ rows,
        ReadsAll (fun p => (run taped (EventService.list p) w').1) limit (rows.map EventRow.listItem) ∧
        w'.archive.IsEventList rows ∧ n.row id now ∈ rows) := by
  have hname := NewEvent.isEventName_of_reader hread
  constructor
  · intro hday
    have hrefused := newEvent_run_of_past hname hclock hday
    rw [hsupply] at hrefused
    exact run_bind_of_error hrefused
  · intro hday
    have hmade := newEvent_run_of_notPast hname hclock hsupply hday
    have hsave := Archive.saveEvent_new (e := (n.row id now).entity) hnew hallowed rfl
    have hids' := nodup_keys_append (r := n.row id now) hids hnew
    have hrow : n.row id now ∈ w.archive.events ++ [n.row id now] := by simp
    refine ⟨_, (run_bind_of_ok hmade).trans (save_run_of_ok _ hsave), rfl, ?_⟩
    exact activeEvent_is_shown Tape.answer (n.row id now) hids' hrow rfl

/-- A message for a new event whose day is given by a stamp: where the clocks show it, it is still the day before. -/
def nightTour : Fields := [("name", .text "Night Tour"), ("date", .text "2025-07-01T23:30:00-02:00")]

/-- The new event that the message is accepted as. -/
def acceptedNightTour : NewEvent := ⟨"Night Tour", ⟨2025, 7, 2, by decide⟩, none⟩

/-- The tour among other events, of which one is deleted, while there is an identifier for one more. -/
def nextTourOn (today : Date) : World Tape := { tourOn today with supply := ⟨(tourOn today).supply.moments, [.ofNat 30]⟩ }

/-- On the first day the event of the message is created and shown, and pages of one event list it with the two others that
are not deleted. On the last day it is refused. -/
theorem nightTour_is_shown :
    run taped (EventService.create acceptedNightTour) (nextTourOn .last) =
      (.error (.ofRule .dateInPast), { nextTourOn .last with supply := ⟨[⟨.last, .ofParts 8 0 0 0⟩], [.ofNat 30]⟩ }) ∧
    ∃ w', run taped (EventService.create acceptedNightTour) (nextTourOn .first) = (.ok (.ofNat 30), w') ∧
      run taped (EventService.get (.ofNat 30)) w' =
        (.ok ⟨⟨.ofNat 30, "Night Tour", ⟨2025, 7, 2, by decide⟩, none, "draft", 0, 0⟩,
          .ofUtc ⟨.last, .ofParts 8 0 0 0⟩, .ofUtc ⟨.last, .ofParts 8 0 0 0⟩⟩, w') ∧
      ∃ rows, ReadsAll (fun p => (run taped (EventService.list p) w').1) 1 (rows.map EventRow.listItem) ∧
        w'.archive.IsEventList rows ∧ (∃ r ∈ rows, r.id = .ofNat 30) ∧ (∃ r ∈ rows, r.id = .ofNat 20) := by
  have hread : NewEvent.form.reader (.object nightTour) = .ok acceptedNightTour := Checked.eq_ok_of_gives (by decide +kernel)
  have hids : ((nextTourOn .first).archive.events.map EventRow.id).Nodup := by decide +kernel
  have hnew : ∀ r ∈ (nextTourOn .first).archive.events, r.id ≠ .ofNat 30 := by decide +kernel
  have hshown (today : Date) := @created_event_is_shown (nextTourOn today) acceptedNightTour ⟨today, .midnight⟩
    ⟨.last, .ofParts 8 0 0 0⟩ [] (.ofNat 30) [] _ hread hids hnew rfl rfl rfl
  refine ⟨(hshown .last).1 (by decide), ?_⟩
  obtain ⟨w', hrun, rfl, hget, hpages⟩ := (hshown .first).2 (by decide)
  obtain ⟨rows, hlist, hrows, hrow⟩ := hpages 1 (by decide) (by decide)
  exact ⟨_, hrun, hget, rows, hlist, hrows, ⟨_, hrow, rfl⟩, romanTour, (hrows.active _).2 ⟨by decide +kernel, rfl⟩, rfl⟩

end RaceAlbum
