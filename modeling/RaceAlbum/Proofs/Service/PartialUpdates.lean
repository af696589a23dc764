import RaceAlbum.Proofs.Archive.Constrained
import RaceAlbum.Proofs.Service.EventChanges
import RaceAlbum.Proofs.Service.EventRuns

/-!
# Partial updates of events

The message of an update may leave a member out, give it as null, or give it a value. `MemberName.Sets` and
`MemberName.SetsOrClears` say what each of the three does to a field of the row, and `EventRow.PatchedBy` what all members
together do. An update of an event that is not deleted does exactly that to its row, at the reading of the clock, and nothing
to any other row, unless its day is past (`update_patches_row`).
-/

namespace RaceAlbum

open Program

variable {α : Type}

/-! ## What a message says about a member -/

namespace MemberName

/-- The object gives the member a value: it has the member, which is not null and is read as that value. -/
def Gives (n : MemberName) (r : Reader α) (fields : Fields) (a : α) : Prop :=
  ∃ name v, n.find? fields = some (name, v) ∧ v ≠ .null ∧ r v = .ok a

/-- The object has the member, with nothing in it. -/
def IsNull (n : MemberName) (fields : Fields) : Prop := ∃ name, n.find? fields = some (name, .null)

/-- The object does not have the member. -/
def IsAbsent (n : MemberName) (fields : Fields) : Prop := n.find? fields = none

/-- What a member makes of a field: the value that it gives. The field stays where the member is null or absent. -/
inductive Sets (n : MemberName) (r : Reader α) (fields : Fields) (old : α) : α → Prop where
  | given {a : α} : n.Gives r fields a → Sets n r fields old a
  | null : n.IsNull fields → Sets n r fields old old
  | absent : n.IsAbsent fields → Sets n r fields old old

/-- What a member makes of a field that may be empty: the value that it gives, or nothing where it is null. The field stays
where the member is absent. -/
inductive SetsOrClears (n : MemberName) (r : Reader α) (fields : Fields) (old : Option α) : Option α → Prop where
  | given {a : α} : n.Gives r fields a → SetsOrClears n r fields old (some a)
  | null : n.IsNull fields → SetsOrClears n r fields old none
  | absent : n.IsAbsent fields → SetsOrClears n r fields old old

end MemberName

/-- A row as the members of an update make it of another one, at a moment. All that the members do not name stays. -/
structure EventRow.PatchedBy (fields : Fields) (m : Moment) (r r' : EventRow) : Prop where
  name : MemberName.name.Sets (Reader.boundedText nameMin nameMax) fields r.name r'.name
  date : MemberName.date.Sets eventDay fields r.date r'.date
  location : MemberName.location.SetsOrClears (Reader.boundedText 0 locationMax) fields r.location r'.location
  rest : r' = { r with name := r'.name, date := r'.date, location := r'.location, updatedAt := m }

namespace FieldEntry

variable {n : MemberName} {r : Reader α} {fields : Fields} {e : FieldEntry α}

/-- The three that a field of a change may be are the three that an object may say about the member. -/
theorem read_cases (h : read n r fields = .ok e) :
    (n.IsAbsent fields ∧ e = .absent) ∨ (n.IsNull fields ∧ e = .empty) ∨ ∃ a, n.Gives r fields a ∧ e = .value a := by
  unfold read at h
  split at h
  · cases h
    exact .inl ⟨‹_›, rfl⟩
  · rename_i name v hfind
    obtain ⟨a?, hread, rfl⟩ := Checked.map_eq_ok_iff.1 h
    rw [Checked.under_eq_ok_iff] at hread
    unfold Reader.optional at hread
    split at hread
    · cases hread
      exact .inr (.inl ⟨⟨name, hfind⟩, rfl⟩)
    · rename_i hnull
      obtain ⟨a, ha, rfl⟩ := Checked.map_eq_ok_iff.1 hread
      exact .inr (.inr ⟨a, ⟨name, v, hfind, hnull, ha⟩, rfl⟩)

/-- A field of a change has the value that the object gives the member. -/
theorem toOption_eq_some_iff (h : read n r fields = .ok e) {a : α} : e.toOption = some a ↔ n.Gives r fields a := by
  rcases read_cases h with ⟨habsent, rfl⟩ | ⟨⟨name, hnull⟩, rfl⟩ | ⟨b, ⟨name, v, hfind, hv, hb⟩, rfl⟩
  · refine ⟨nofun, ?_⟩
    rintro ⟨name', v', hfind, -⟩
    cases habsent.symm.trans hfind
  · refine ⟨nofun, ?_⟩
    rintro ⟨name', v', hfind, hv', -⟩
    cases hnull.symm.trans hfind
    exact absurd rfl hv'
  · constructor
    · rintro ⟨⟩
      exact ⟨name, v, hfind, hv, hb⟩
    · rintro ⟨name', v', hfind', -, ha⟩
      cases hfind.symm.trans hfind'
      cases hb.symm.trans ha
      rfl

/-- A field that keeps its value where the change has none is set as the member says. -/
theorem sets (h : read n r fields = .ok e) (old : α) : n.Sets r fields old (e.toOption.getD old) := by
  rcases read_cases h with ⟨habsent, rfl⟩ | ⟨hnull, rfl⟩ | ⟨a, ha, rfl⟩
  · exact .absent habsent
  · exact .null hnull
  · exact .given ha

/-- A field that keeps its value only where the change says nothing is set or cleared as the member says. -/
theorem setsOrClears (h : read n r fields = .ok e) (old : Option α) :
    n.SetsOrClears r fields old (if e.isPresent then e.toOption else old) := by
  rcases read_cases h with ⟨habsent, rfl⟩ | ⟨hnull, rfl⟩ | ⟨a, ha, rfl⟩
  · exact .absent habsent
  · exact .null hnull
  · exact .given ha

end FieldEntry

/-- What an update makes of a row is what the members of its message make of it. -/
theorem EventRow.patchedBy_edits {fields : Fields} {patch : EventPatch} {r : EventRow}
    (h : EventPatch.form.read fields = .ok patch) (hr : r.isActive = true) (id : Uuid) (m : Moment) :
    r.PatchedBy fields m ((ServiceCall.updateEvent id patch).edits m r) := by
  obtain ⟨hname, hdate, hlocation⟩ := EventPatch.fields_read h
  unfold ServiceCall.edits
  rw [if_pos hr]
  exact ⟨FieldEntry.sets hname r.name, FieldEntry.sets hdate r.date, FieldEntry.setsOrClears hlocation r.location, rfl⟩

/-! ## The row in its place -/

namespace Archive

variable {a : Archive}

/-- An event whose last change bears an offset is put in the place of its row where updates are allowed and its numbers fit. -/
theorem saveEvent_between {e : Event} {before after : List EventRow} {row : EventRow}
    (hevents : a.events = before ++ row :: after) (hids : (a.events.map EventRow.id).Nodup) (hid : e.id = row.id)
    (hstamped : e.audit.updatedAt.isBare = false) (hallowed : a.isBlocked .events .update = false)
    (hintegers : (EventRow.ofEntity e).integers.all isInt64 = true) :
    a.saveEvent e = .ok { a with events := before ++ .ofEntity e :: after } := by
  have hrow : row ∈ a.events := by simp [hevents]
  rw [saveEvent_eq hstamped ⟨row, hrow, hid.symm⟩, ensureIntegers, ensure_bind_of hintegers,
    ensure_bind_of (by rw [hallowed]; rfl)]
  rw [hevents] at hids
  have hput : upsert EventRow.id (.ofEntity e) a.events = before ++ .ofEntity e :: after := by
    rw [hevents]
    exact upsert_between hids hid
  rw [hput]
  rfl

end Archive

/-! ## The run -/

variable {w : World Tape} {m : Moment} {ms : List Moment}

/-- A day that is not past by the next reading is accepted, and another one is refused. -/
theorem requireDate_taped {d : Date} (h : w.supply.moments = m :: ms) :
    run taped (Event.requireDate d) w =
      (if m.date.key ≤ d.key then .ok () else .error (.ofRule .dateInPast), { w with supply := ⟨ms, w.supply.ids⟩ }) :=
  requireDate_of_reading d (readClock_taped h)

/-- A message that gives no day past the reading that it is held against passes the check of the day. -/
theorem givenDay_run {d? : Option Date} {today : Option Moment} (hclock : w.supply.moments = today.toList ++ ms)
    (htoday : today.isSome = d?.isSome) (hday : ∀ d ∈ d?, ∀ t ∈ today, t.date.key ≤ d.key) :
    run taped (d?.elim (pure ()) Event.requireDate) w = (.ok (), { w with supply := ⟨ms, w.supply.ids⟩ }) := by
  cases d? with
  | none =>
    obtain rfl : today = none := by simpa using htoday
    obtain ⟨⟨moments, ids⟩, archive, storage⟩ := w
    cases hclock
    rfl
  | some d =>
    obtain ⟨t, rfl⟩ : ∃ t, today = some t := Option.isSome_iff_exists.1 htoday
    refine (requireDate_taped hclock).trans ?_
    rw [if_pos (hday d rfl t rfl)]
    rfl

/-- An update changes exactly what was sent. A message that the form of updates accepts is given for an event that is not
deleted, and `today` is the reading of the clock that the day of the message is held against, if it gives one. If the day is
not past, the row of the event becomes what the members of the message make of it at the next reading, in its place among the
rows of the events, which are otherwise as they were, as are all other rows. If the day is past, the update is refused, and
nothing changes at all. -/
theorem update_patches_row {fields : Fields} {patch : EventPatch} {row : EventRow} {today : Option Moment} {now : Moment}
    (hread : EventPatch.form.reader (.object fields) = .ok patch) (hids : (w.archive.events.map EventRow.id).Nodup)
    (hrow : row ∈ w.archive.events) (hactive : row.isActive = true) (hintegers : row.integers.all isInt64 = true)
    (hallowed : w.archive.isBlocked .events .update = false) (hclock : w.supply.moments = today.toList ++ now :: ms)
    (htoday : today.isSome = true ↔ ∃ d, MemberName.date.Gives eventDay fields d) :
    ((∀ d, MemberName.date.Gives eventDay fields d → ∀ t ∈ today, t.date.key ≤ d.key) →
      ∃ before row' after, w.archive.events = before ++ row :: after ∧ row.PatchedBy fields now row' ∧
        run taped (EventService.update row.id patch) w =
          (.ok row.id, ⟨⟨ms, w.supply.ids⟩, { w.archive with events := before ++ row' :: after }, w.storage⟩)) ∧
    (∀ d, MemberName.date.Gives eventDay fields d → ∀ t ∈ today, d.key < t.date.key →
      run taped (EventService.update row.id patch) w =
        (.error (.ofRule .dateInPast), { w with supply := ⟨now :: ms, w.supply.ids⟩ })) := by
  have hform : EventPatch.form.read fields = .ok patch := hread
  obtain ⟨-, hdate, -⟩ := EventPatch.fields_read hform
  have hfound := findEvent_run Tape.answer (Archive.activeEvent?_eq hids hrow hactive)
  have hrename : row.entity.rename patch.name.toOption = .ok { row.entity with
      name := patch.name.toOption.getD row.name } := row.entity.rename_of_accepted (EventPatch.isEventName_of_read hform)
  constructor
  · intro hday
    obtain ⟨before, after, hevents⟩ := List.append_of_mem hrow
    have hchecked : run taped (patch.date.toOption.elim (pure ()) Event.requireDate) w =
        (.ok (), { w with supply := ⟨now :: ms, w.supply.ids⟩ }) := by
      refine givenDay_run hclock ?_ fun d hd => hday d ((FieldEntry.toOption_eq_some_iff hdate).1 hd)
      rw [Bool.eq_iff_iff, htoday, Option.isSome_iff_exists]
      exact exists_congr fun d => (FieldEntry.toOption_eq_some_iff hdate).symm
    have hupdate := Event.update_run_of_accepted (c := .ofPatch patch) hrename hchecked (readClock_taped rfl)
    have hedits := ofEntity_update hactive row.id patch now
    refine ⟨before, (ServiceCall.updateEvent row.id patch).edits now row, after, hevents,
      EventRow.patchedBy_edits hform hactive row.id now, ?_⟩
    refine (run_bind_of_ok hfound).trans ((run_bind_of_ok hupdate).trans ?_)
    rw [← hedits]
    exact save_run_of_ok _ (Archive.saveEvent_between hevents hids rfl rfl hallowed hintegers)
  · intro d hgives t ht hpast
    have hsome : patch.date.toOption = some d := (FieldEntry.toOption_eq_some_iff hdate).2 hgives
    obtain rfl : today = some t := ht
    have hrefused : run taped (patch.date.toOption.elim (pure ()) Event.requireDate) w =
        (.error (.ofRule .dateInPast), { w with supply := ⟨now :: ms, w.supply.ids⟩ }) := by
      rw [hsome]
      refine (requireDate_taped hclock).trans ?_
      rw [if_neg (Nat.not_le.2 hpast)]
      rfl
    have hupdate := Event.update_run_of_refused (c := .ofPatch patch) hrename hrefused
    exact (run_bind_of_ok hfound).trans ((run_bind_of_ok hupdate).trans rfl)

/-- A tour in Rome. -/
def romanTour : EventRow :=
  ⟨.ofNat 20, "Tour", .first, some "Rome", .draft, 3, 1, ⟨.first, .midnight⟩, ⟨.first, .midnight⟩, none⟩

/-- The tour among other events, while the clock stands at a day. -/
def tourOn (today : Date) : World Tape where
  supply := ⟨[⟨today, .midnight⟩, ⟨.last, .ofParts 8 0 0 0⟩], []⟩
  archive := { Archive.smallAlbum with events := romanTour :: Archive.smallAlbum.events }
  storage := World.empty.storage

/-- A message that gives a name and a day, and takes the place away. -/
def grandTour : Fields := [("name", .text "Grand Tour"), ("date", .text "2025-07-01"), ("location", .null)]

/-- What the message says. -/
def grandTourPatch : EventPatch := ⟨.value "Grand Tour", .value ⟨2025, 7, 1, by decide⟩, .empty⟩

/-- On the first day the tour is changed by the message, and on the last day the message is refused. -/
theorem grandTour_patches_romanTour :
    (∃ before row' after, (tourOn .first).archive.events = before ++ romanTour :: after ∧
      romanTour.PatchedBy grandTour ⟨.last, .ofParts 8 0 0 0⟩ row' ∧
      run taped (EventService.update romanTour.id grandTourPatch) (tourOn .first) =
        (.ok romanTour.id, ⟨⟨[], []⟩, { (tourOn .first).archive with events := before ++ row' :: after },
          (tourOn .first).storage⟩)) ∧
    run taped (EventService.update romanTour.id grandTourPatch) (tourOn .last) =
      (.error (.ofRule .dateInPast), { tourOn .last with supply := ⟨[⟨.last, .ofParts 8 0 0 0⟩], []⟩ }) := by
  have hread : EventPatch.form.reader (.object grandTour) = .ok grandTourPatch := Checked.eq_ok_of_gives (by decide +kernel)
  have hdate : eventDay (.text "2025-07-01") = .ok ⟨2025, 7, 1, by decide⟩ := Checked.eq_ok_of_gives (by decide +kernel)
  have hgives : MemberName.date.Gives eventDay grandTour ⟨2025, 7, 1, by decide⟩ :=
    ⟨"date", .text "2025-07-01", rfl, nofun, hdate⟩
  have hday {d : Date} (hd : MemberName.date.Gives eventDay grandTour d) : d = ⟨2025, 7, 1, by decide⟩ := by
    obtain ⟨name, v, hfind, -, hd⟩ := hd
    cases hfind
    cases hdate.symm.trans hd
    rfl
  have hids : ((tourOn .first).archive.events.map EventRow.id).Nodup := by decide +kernel
  have hpatches (today : Date) := @update_patches_row (tourOn today) [] grandTour grandTourPatch romanTour
    (some ⟨today, .midnight⟩) _ hread hids (List.mem_cons_self ..) rfl (by decide) rfl rfl
    ⟨fun _ => ⟨_, hgives⟩, fun _ => rfl⟩
  refine ⟨(hpatches .first).1 fun d hd t ht => ?_, (hpatches .last).2 _ hgives _ rfl (by decide)⟩
  cases hday hd
  cases ht
  decide

end RaceAlbum
