import RaceAlbum.Proofs.Calendar.Instants
import RaceAlbum.Proofs.Service.EventRuns

/-!
# The life of an event

An event is created, and then it is updated and deleted any number of times. A refused update may have changed the name, and the
life goes on from there. `EventCall.run_outcome` says all that one call can do, under a clock that can always be read. What
every call keeps (`Life.Inv.next`) holds of every life: the name has its length, what identifies an event stays, and its marks
are in the order of time as long as the clock never goes back.
-/

namespace RaceAlbum

open Program

variable {σ : Type} {h : Handler σ} {now : σ → Moment} {s s' : σ} {e e' : Event}

/-- A clock that can always be read, that shows what the time is and that never goes back. -/
structure Handler.NeverGoesBack (h : Handler σ) (now : σ → Moment) : Prop where
  shows : ∀ s, (h .readClock s).1 = .ok (now s)
  later : ∀ s, (now s).micros ≤ (now (h .readClock s).2).micros

/-- What is done to an event. -/
inductive EventCall where
  | update (c : Event.Changes)
  | softDelete

namespace EventCall

/-- The call on an event: the event after it, and why it was refused, if it was. -/
def program (e : Event) : EventCall → Program (Event × Option Failure)
  | update c => e.update c
  | softDelete => do
    let e ← e.softDelete
    return (e, none)

/-- Whether a call sets the day of an event, if it is not refused. -/
def setsDate : EventCall → Bool
  | update c => c.date.isSome
  | softDelete => false

end EventCall

/-! ## One call -/

/-- A reading of the clock is the time, as a moment of universal time. -/
theorem Handler.NeverGoesBack.run_readClock (hclock : h.NeverGoesBack now) (s : σ) :
    run h readClock s = (.ok (.ofUtc (now s)), (h .readClock s).2) := by
  have hcall : run h (call .readClock) s = (.ok (now s), (h .readClock s).2) := by
    rw [run_call, ← hclock.shows s]
  exact (run_bind_of_ok hcall).trans rfl

/-- A day is refused if it is past by the clock. -/
theorem Handler.NeverGoesBack.run_requireDate (hclock : h.NeverGoesBack now) (d : Date) (s : σ) :
    run h (Event.requireDate d) s =
      (if (now s).date.key ≤ d.key then .ok () else .error (.ofRule .dateInPast), (h .readClock s).2) :=
  requireDate_of_reading d (hclock.run_readClock s)

/-- How a call ends: the event after it, and why it was refused, if it was. A clock that shows the time `now` is at `s` when
the call begins and at `s'` when it ends. -/
inductive EventCall.Outcome (now : σ → Moment) (e : Event) (s s' : σ) : EventCall → Event → Option Failure → Prop
  | misnamed {c : Event.Changes} {name : String} (hgiven : c.name = some name) (hname : isEventName name = false)
      (hlater : (now s).micros ≤ (now s').micros) :
      Outcome now e s s' (.update c) e (some (.ofRule .nameLength))
  | past {c : Event.Changes} {d : Date} (hgiven : c.date = some d) (hday : d.key < (now s).date.key)
      (hname : ∀ name ∈ c.name, isEventName name = true) (hlater : (now s).micros ≤ (now s').micros) :
      Outcome now e s s' (.update c) { e with name := c.name.getD e.name } (some (.ofRule .dateInPast))
  | updated {c : Event.Changes} {m : Moment} (hname : ∀ name ∈ c.name, isEventName name = true)
      (hday : ∀ d ∈ c.date, (now s).date.key ≤ d.key) (hfrom : (now s).micros ≤ m.micros)
      (hto : m.micros ≤ (now s').micros) :
      Outcome now e s s' (.update c)
        { e with
          name := c.name.getD e.name
          date := c.date.getD e.date
          location := c.location.getD e.location
          audit := { e.audit with updatedAt := .ofUtc m } } none
  | deleted {m : Moment} (hfrom : (now s).micros ≤ m.micros) (hto : m.micros ≤ (now s').micros) :
      Outcome now e s s' .softDelete
        { e with audit := { e.audit with deletedAt := some (.ofUtc m), updatedAt := .ofUtc m } } none

/-- Every call comes to one of these ends. -/
theorem EventCall.run_outcome (hclock : h.NeverGoesBack now) (e : Event) (c : EventCall) (s : σ) :
    ∃ e' refusal? s', run h (c.program e) s = (.ok (e', refusal?), s') ∧ c.Outcome now e s s' e' refusal? := by
  cases c with
  | softDelete =>
    have hread := hclock.run_readClock s
    exact ⟨_, none, _, run_bind_of_ok ((run_bind_of_ok hread).trans rfl), .deleted (Nat.le_refl _) (hclock.later s)⟩
  | update c =>
    -- the name is set before the day is looked at, so a refused day leaves the new name
    by_cases hname : ∀ name ∈ c.name, isEventName name = true
    · have hrename := e.rename_of_accepted hname
      cases hd : c.date with
      | none =>
        have hday : run h (c.date.elim (pure ()) Event.requireDate) s = (.ok (), s) := by rw [hd]; rfl
        have hupdate := Event.update_run_of_accepted hrename hday (hclock.run_readClock s)
        exact ⟨_, none, _, hupdate, .updated hname (by simp [hd]) (Nat.le_refl _) (hclock.later s)⟩
      | some d =>
        have hday := hclock.run_requireDate d s
        rw [show Event.requireDate d = c.date.elim (pure ()) Event.requireDate by rw [hd]; rfl] at hday
        by_cases hpast : (now s).date.key ≤ d.key
        · rw [if_pos hpast] at hday
          have hupdate := Event.update_run_of_accepted hrename hday (hclock.run_readClock _)
          exact ⟨_, none, _, hupdate, .updated hname (by simpa [hd] using hpast) (hclock.later s) (hclock.later _)⟩
        · rw [if_neg hpast] at hday
          exact ⟨_, _, _, Event.update_run_of_refused hrename hday, .past hd (Nat.not_le.1 hpast) hname (hclock.later s)⟩
    · obtain ⟨name, hgiven, hbad⟩ : ∃ name, c.name = some name ∧ isEventName name = false := by
        simpa using hname
      have hrename : e.rename c.name = .error (.ofRule .nameLength) := by
        rw [hgiven, Event.rename, hbad]
        rfl
      have hupdate : run h (e.update c) s = (.ok (e, some (.ofRule .nameLength)), s) := by
        rw [Event.update, hrename]
        rfl
      exact ⟨e, _, s, hupdate, .misnamed hgiven hbad (Nat.le_refl _)⟩

/-! ## What a call keeps -/

/-- What holds of an event at any time: its name has its length, and it was created before it was last changed and deleted
not after that. -/
structure Event.IsSound (e : Event) : Prop where
  name_min : 3 ≤ e.name.length
  name_max : e.name.length ≤ 200
  created_le : e.audit.createdAt.instant ≤ e.audit.updatedAt.instant
  deleted_le : ∀ d ∈ e.audit.deletedAt, d.instant ≤ e.audit.updatedAt.instant

/-- What holds of an event and of any later state of it: what identifies it is the same, its last change is not earlier, and a
deleted event stays deleted. -/
structure Event.Follows (e' e : Event) : Prop where
  id : e'.id = e.id
  status : e'.status = e.status
  totalPhotos : e'.totalPhotos = e.totalPhotos
  processedPhotos : e'.processedPhotos = e.processedPhotos
  createdAt : e'.audit.createdAt = e.audit.createdAt
  updated_le : e.audit.updatedAt.instant ≤ e'.audit.updatedAt.instant
  deleted : e.isDeleted = true → e'.isDeleted = true

/-- What a refused call leaves: all but the name, which may be the one that was given. -/
structure Event.IsRefused (e' e : Event) (c : EventCall) : Prop where
  date : e'.date = e.date
  location : e'.location = e.location
  audit : e'.audit = e.audit
  name : e'.name = e.name ∨ ∃ changes, c = .update changes ∧ changes.name = some e'.name

theorem Event.Follows.refl (e : Event) : e.Follows e := ⟨rfl, rfl, rfl, rfl, rfl, Int.le_refl _, fun h => h⟩

theorem Event.Follows.trans {a b c : Event} (hab : b.Follows a) (hbc : c.Follows b) : c.Follows a where
  id := hbc.id.trans hab.id
  status := hbc.status.trans hab.status
  totalPhotos := hbc.totalPhotos.trans hab.totalPhotos
  processedPhotos := hbc.processedPhotos.trans hab.processedPhotos
  createdAt := hbc.createdAt.trans hab.createdAt
  updated_le := Int.le_trans hab.updated_le hbc.updated_le
  deleted := hbc.deleted ∘ hab.deleted

/-- A moment of universal time names its own instant. -/
@[simp] theorem Stamp.instant_ofUtc (m : Moment) : (ofUtc m).instant = m.micros := by
  simp [instant, ofUtc, Offset.utc]

namespace EventCall.Outcome

variable {c : EventCall} {refusal? : Option Failure}

/-- An event that was last changed before the call is followed by the event after it. -/
theorem follows (ho : c.Outcome now e s s' e' refusal?) (hpast : e.audit.updatedAt.instant ≤ (now s).micros) :
    e'.Follows e := by
  cases ho with
  | misnamed => exact .refl e
  | past => exact { Event.Follows.refl e with }
  | updated _ _ hfrom =>
    refine { Event.Follows.refl e with updated_le := ?_ }
    simp only [Stamp.instant_ofUtc]
    omega
  | deleted hfrom =>
    refine { Event.Follows.refl e with updated_le := ?_, deleted := fun _ => rfl }
    simp only [Stamp.instant_ofUtc]
    omega

/-- A sound event stays sound. -/
theorem isSound (ho : c.Outcome now e s s' e' refusal?) (he : e.IsSound)
    (hpast : e.audit.updatedAt.instant ≤ (now s).micros) : e'.IsSound := by
  have hname {name? : Option String} (hgiven : ∀ name ∈ name?, isEventName name = true) :
      3 ≤ (name?.getD e.name).length ∧ (name?.getD e.name).length ≤ 200 := by
    cases name? with
    | none => exact ⟨he.name_min, he.name_max⟩
    | some name => exact isEventName_iff.1 (hgiven name rfl)
  have hcreated := he.created_le
  cases ho with
  | misnamed => exact he
  | past _ _ hgiven => exact { he with name_min := (hname hgiven).1, name_max := (hname hgiven).2 }
  | updated hgiven _ hfrom =>
    refine ⟨(hname hgiven).1, (hname hgiven).2, ?_, fun d hd => ?_⟩
    · simp only [Stamp.instant_ofUtc]
      omega
    · have hdeleted := he.deleted_le d hd
      simp only [Stamp.instant_ofUtc]
      omega
  | deleted hfrom =>
    refine ⟨he.name_min, he.name_max, ?_, fun d hd => ?_⟩
    · simp only [Stamp.instant_ofUtc]
      omega
    · obtain rfl := Option.mem_some_iff.1 hd
      exact Int.le_refl _

/-- The last change is not later than the end of the call. -/
theorem updated_le (ho : c.Outcome now e s s' e' refusal?) (hpast : e.audit.updatedAt.instant ≤ (now s).micros) :
    e'.audit.updatedAt.instant ≤ (now s').micros := by
  cases ho with
  | misnamed _ _ hlater => omega
  | past _ _ _ hlater => exact Int.le_trans hpast (by omega)
  | updated _ _ _ hto =>
    simp only [Stamp.instant_ofUtc]
    omega
  | deleted _ hto =>
    simp only [Stamp.instant_ofUtc]
    omega

/-- A refused call leaves all but the name. -/
theorem isRefused {f : Failure} (ho : c.Outcome now e s s' e' (some f)) : e'.IsRefused e c := by
  cases ho with
  | misnamed => exact ⟨rfl, rfl, rfl, .inl rfl⟩
  | @past changes _ _ _ hname =>
    refine ⟨rfl, rfl, rfl, ?_⟩
    cases hgiven : changes.name with
    | none => exact .inl (by simp)
    | some name => exact .inr ⟨changes, rfl, by simp [hgiven]⟩

/-- A call that is not refused and that sets the day sets one that is not past; no other call changes the day. -/
theorem dated (ho : c.Outcome now e s s' e' refusal?) :
    if refusal?.isNone && c.setsDate then (now s).date.key ≤ e'.date.key else e'.date = e.date := by
  cases ho with
  | misnamed => simp
  | past => simp
  | @updated changes _ _ hday =>
    cases hd : changes.date with
    | none => simp [EventCall.setsDate, hd]
    | some d => simpa [EventCall.setsDate, hd] using hday d hd
  | deleted => simp [EventCall.setsDate]

end EventCall.Outcome

/-! ## A life -/

/-- An event while it lives: the world that it lives in, and what the clock showed when its day was last set. -/
structure Life (σ : Type) where
  event : Event
  state : σ
  dated : Moment

namespace Life

variable {l : Life σ}

/-- The life after one more call. -/
def next (h : Handler σ) (now : σ → Moment) (l : Life σ) (c : EventCall) : Life σ :=
  match run h (c.program l.event) l.state with
  | (.ok (e, refusal?), s) => ⟨e, s, if refusal?.isNone && c.setsDate then now l.state else l.dated⟩
  | (.error _, s) => { l with state := s }

/-- The life after some more calls. -/
def after (h : Handler σ) (now : σ → Moment) (l : Life σ) (calls : List EventCall) : Life σ := calls.foldl (next h now) l

/-- What holds of a life between any two calls. -/
structure Inv (now : σ → Moment) (l : Life σ) : Prop where
  sound : l.event.IsSound
  updated_le : l.event.audit.updatedAt.instant ≤ (now l.state).micros
  dated : l.dated.date.key ≤ l.event.date.key

/-- Every call ends as its outcome says. -/
theorem next_outcome (hclock : h.NeverGoesBack now) (l : Life σ) (c : EventCall) : ∃ refusal?,
    run h (c.program l.event) l.state = (.ok ((l.next h now c).event, refusal?), (l.next h now c).state) ∧
      c.Outcome now l.event l.state (l.next h now c).state (l.next h now c).event refusal? ∧
      (l.next h now c).dated = if refusal?.isNone && c.setsDate then now l.state else l.dated := by
  obtain ⟨e', refusal?, s', hrun, ho⟩ := c.run_outcome hclock l.event l.state
  have hnext : l.next h now c = ⟨e', s', if refusal?.isNone && c.setsDate then now l.state else l.dated⟩ := by
    rw [next, hrun]
  rw [hnext]
  exact ⟨refusal?, hrun, ho, rfl⟩

/-- A call keeps what holds of a life, and the event after it follows the one before. -/
theorem Inv.next (hclock : h.NeverGoesBack now) (hl : l.Inv now) (c : EventCall) :
    (l.next h now c).Inv now ∧ (l.next h now c).event.Follows l.event := by
  obtain ⟨refusal?, -, ho, hdated⟩ := l.next_outcome hclock c
  refine ⟨⟨ho.isSound hl.sound hl.updated_le, ho.updated_le hl.updated_le, ?_⟩, ho.follows hl.updated_le⟩
  have hday := ho.dated
  rw [hdated]
  split at hday
  · rwa [if_pos ‹_›]
  · rw [if_neg ‹_›, hday]
    exact hl.dated

/-- So do calls in a row. -/
theorem Inv.after (hclock : h.NeverGoesBack now) (hl : l.Inv now) (calls : List EventCall) :
    (l.after h now calls).Inv now ∧ (l.after h now calls).event.Follows l.event := by
  induction calls generalizing l with
  | nil => exact ⟨hl, .refl _⟩
  | cons c calls ih =>
    obtain ⟨hnext, hfollows⟩ := hl.next hclock c
    obtain ⟨hafter, hlater⟩ := ih hnext
    exact ⟨hafter, hfollows.trans hlater⟩

/-- The life of an event that was created at a time `s` and is there at `s'`. -/
def start (now : σ → Moment) (s : σ) (e : Event) (s' : σ) : Life σ := ⟨e, s', now s⟩

end Life

/-- An event is created on a day that is not past, and its marks are the time at which that was done. -/
theorem Event.create_ok (hclock : h.NeverGoesBack now) {n : NewEvent} (hcreate : run h (Event.create n) s = (.ok e, s')) :
    isEventName n.name = true ∧ (now s).date.key ≤ n.date.key ∧ ∃ id m, m.micros ≤ (now s').micros ∧
      e = ⟨id, n.name, n.date, n.location, .draft, 0, 0, ⟨.ofUtc m, .ofUtc m, none⟩⟩ := by
  obtain ⟨hname, hdated⟩ := run_require_bind_ok hcreate
  obtain ⟨_, s₁, hdate, hidentified⟩ := run_bind_ok hdated
  obtain ⟨id, s₂, -, hmarked⟩ := run_bind_ok hidentified
  obtain ⟨audit, s₃, haudit, hmade⟩ := run_bind_ok hmarked
  have hday : (now s).date.key ≤ n.date.key := by
    by_contra hpast
    rw [hclock.run_requireDate, if_neg hpast] at hdate
    cases hdate
  rw [Audit.start, run_bind_of_ok (hclock.run_readClock s₂)] at haudit
  cases haudit
  cases hmade
  exact ⟨hname, hday, id, now s₂, hclock.later s₂, rfl⟩

/-- What holds of a life holds of a new event. -/
theorem Life.start_inv (hclock : h.NeverGoesBack now) {n : NewEvent} (hcreate : run h (Event.create n) s = (.ok e, s')) :
    (Life.start now s e s').Inv now := by
  obtain ⟨hname, hday, id, m, hto, rfl⟩ := Event.create_ok hclock hcreate
  obtain ⟨hmin, hmax⟩ := isEventName_iff.1 hname
  refine ⟨⟨hmin, hmax, Int.le_refl _, fun d hd => by cases hd⟩, ?_, hday⟩
  change (Stamp.ofUtc m).instant ≤ (now s').micros
  rw [Stamp.instant_ofUtc]
  exact Int.ofNat_le.2 hto

/-- **The life of an event.** An event was created, and any calls were made on it under a clock that never goes back. Then it is
sound, it follows the event that was created, and its day was not past when it was last set. Every further call comes to an end:
its day is set only if the call sets it and is not refused, and a refused call leaves all but the name. The event after any
further calls follows the one before them. -/
theorem event_lives_soundly (hclock : h.NeverGoesBack now) {n : NewEvent}
    (hcreate : run h (Event.create n) s = (.ok e, s')) (calls : List EventCall) :
    let l := (Life.start now s e s').after h now calls
    l.event.IsSound ∧ l.event.Follows e ∧ l.dated.date.key ≤ l.event.date.key ∧
      (∀ c, ∃ refusal?,
        run h (c.program l.event) l.state = (.ok ((l.next h now c).event, refusal?), (l.next h now c).state) ∧
          (if refusal?.isNone && c.setsDate then (l.next h now c).dated = now l.state
            else (l.next h now c).dated = l.dated ∧ (l.next h now c).event.date = l.event.date) ∧
          ∀ f, refusal? = some f → (l.next h now c).event.IsRefused l.event c) ∧
      ∀ later, (l.after h now later).event.Follows l.event := by
  intro l
  obtain ⟨hl, hfollows⟩ := (Life.start_inv hclock hcreate).after hclock calls
  refine ⟨hl.sound, hfollows, hl.dated, fun c => ?_, fun later => (hl.after hclock later).2⟩
  obtain ⟨refusal?, hrun, ho, hdated⟩ := l.next_outcome hclock c
  refine ⟨refusal?, hrun, ?_, fun f hf => (hf ▸ ho).isRefused⟩
  have hday := ho.dated
  split at hday
  · rwa [if_pos ‹_›] at hdated ⊢
  · rw [if_neg ‹_›] at hdated ⊢
    exact ⟨hdated, hday⟩

/-- The time on the first of July after some readings of a clock that goes on with each, until the day ends. -/
def julyTime (readings : Nat) : Moment :=
  ⟨⟨2026, 7, 1, by decide⟩, ⟨min readings 86399999999, Nat.lt_of_le_of_lt (Nat.min_le_right _ _) (by decide)⟩⟩

/-- That clock. -/
def julyClock : Handler Nat
  | .readClock, n => (.ok (julyTime n), n + 1)
  | .takeId, n => (.ok (Supply.countedId 1), n)
  | _, n => (.error misaddressed, n)

theorem julyClock_neverGoesBack : julyClock.NeverGoesBack julyTime where
  shows _ := rfl
  later n := by
    have hreading : min n 86399999999 ≤ min (n + 1) 86399999999 := by omega
    exact Nat.add_le_add_left hreading _

/-- An event of the second of July. -/
def julyTour : Event :=
  ⟨Supply.countedId 1, "Tour", ⟨2026, 7, 2, by decide⟩, none, .draft, 0, 0, ⟨.ofUtc (julyTime 1), .ofUtc (julyTime 1), none⟩⟩

/-- It is renamed by an update that is refused for its day, and then it is deleted. -/
theorem julyTour_lives_soundly : run julyClock (Event.create ⟨"Tour", ⟨2026, 7, 2, by decide⟩, none⟩) 0 = (.ok julyTour, 2) ∧
    ((Life.start julyTime 0 julyTour 2).after julyClock julyTime
      [.update ⟨some "Night Tour", some ⟨2026, 6, 30, by decide⟩, none⟩, .softDelete]).event.Follows julyTour := by
  have hcreate : run julyClock (Event.create ⟨"Tour", ⟨2026, 7, 2, by decide⟩, none⟩) 0 = (.ok julyTour, 2) := by rfl
  exact ⟨hcreate, (event_lives_soundly julyClock_neverGoesBack hcreate _).2.1⟩

end RaceAlbum
