import RaceAlbum.Event.Form
import RaceAlbum.Proofs.Schema.Accepted

/-!
# Where a check breaks off

A check breaks off where universal time moves a stamp out of the calendar; no problem is told then. A joined check breaks off
where one of its parts does, and of all readers of scalars only that of the day of an event has such a part. So a form of an
event breaks off where its day is lost, whatever else is in it (`NewEvent.form_breaksOff_iff`, `EventPatch.form_breaksOff_iff`).
-/

namespace RaceAlbum

variable {α β : Type}

namespace Checked

/-- The check breaks off. -/
def BreaksOff (c : Checked α) : Prop := c = outOfCalendar

/-- A check that is passed does not break off. -/
@[simp] theorem breaksOff_ok (a : α) : ¬(ok a).BreaksOff := nofun

/-- Nor does one that finds problems. -/
@[simp] theorem breaksOff_problems (ps : List Problem) : ¬(problems ps : Checked α).BreaksOff := nofun

/-- Nor does one that finds a single problem. -/
@[simp] theorem breaksOff_complain (c : Complaint) : ¬(complain c : Checked α).BreaksOff := nofun

/-- What is made of a value does not matter. -/
@[simp] theorem breaksOff_map_iff {f : α → β} {c : Checked α} : (c.map f).BreaksOff ↔ c.BreaksOff := by
  cases c <;> simp [map, BreaksOff]

/-- The same in the notation of functors. -/
@[simp] theorem breaksOff_functorMap_iff {f : α → β} {c : Checked α} : (f <$> c).BreaksOff ↔ c.BreaksOff :=
  breaksOff_map_iff

/-- A joined check breaks off where one of its parts does. -/
@[simp] theorem breaksOff_seq_iff {f : Checked (α → β)} {c : Checked α} :
    (f <*> c).BreaksOff ↔ f.BreaksOff ∨ c.BreaksOff := by
  change (both f c).BreaksOff ↔ _
  cases f <;> cases c <;> simp [both, BreaksOff]

/-- It does not matter where in a document a check is made. -/
@[simp] theorem breaksOff_under_iff {step : PathStep} {c : Checked α} : (c.under step).BreaksOff ↔ c.BreaksOff := by
  cases c <;> simp [under, BreaksOff]

/-- Two checks, one after the other, break off where the first does, or where the second does after the first was passed. -/
theorem breaksOff_andThen_iff {c : Checked α} {f : α → Checked β} :
    (c.andThen f).BreaksOff ↔ c.BreaksOff ∨ ∃ a, c = ok a ∧ (f a).BreaksOff := by
  cases c <;> simp [andThen, BreaksOff]

/-- What follows a check that never breaks off decides alone. -/
theorem not_breaksOff_andThen {c : Checked α} {f : α → Checked β} (hc : ¬c.BreaksOff) (hf : ∀ a, ¬(f a).BreaksOff) :
    ¬(c.andThen f).BreaksOff := by
  rw [breaksOff_andThen_iff]
  rintro (h | ⟨a, -, h⟩)
  · exact hc h
  · exact hf a h

end Checked

/-! ## Readers of scalars -/

namespace Reader

/-- A reader that finds problems at most. -/
def NeverBreaksOff (r : Reader α) : Prop := ∀ v, ¬(r v).BreaksOff

/-- A text is a text or a problem. -/
theorem text_neverBreaksOff : NeverBreaksOff text := by
  intro v
  cases v <;> simp [text]

/-- The length of a text is right or a problem. -/
theorem boundedText_neverBreaksOff (least most : Nat) : NeverBreaksOff (boundedText least most) := by
  intro v
  refine Checked.not_breaksOff_andThen (text_neverBreaksOff v) fun s => ?_
  split
  · simp
  split
  · simp
  · simp

/-- An identifier is right or a problem. -/
theorem uuid_neverBreaksOff : NeverBreaksOff uuid := by
  intro v
  unfold uuid
  split
  · simp
  · split <;> simp
  · simp
  · simp

/-- A stamp that does not exist is a problem. -/
theorem stampOfReading_neverBreaksOff (r : Except CalendarFault Stamp) : ¬(stampOfReading r).BreaksOff := by
  cases r <;> simp [stampOfReading]

/-- So is a text that is no stamp. -/
theorem stampOfText_neverBreaksOff (s : String) : ¬(stampOfText s).BreaksOff := by
  unfold stampOfText
  split
  · simp
  · simp
  · split <;> simp

/-- Whatever is read as a stamp is one or a problem. -/
theorem stamp_neverBreaksOff : NeverBreaksOff stamp := by
  intro v
  unfold stamp
  split
  · simp
  · simp
  · exact stampOfText_neverBreaksOff _
  · split
    · exact stampOfReading_neverBreaksOff _
    · simp
  · exact stampOfReading_neverBreaksOff _
  · split
    · exact stampOfReading_neverBreaksOff _
    · simp
  · simp
  · simp

/-- A stamp is a day at midnight, and a problem at any other time. -/
theorem dateOfStamp_neverBreaksOff (s : Stamp) : ¬(dateOfStamp s).BreaksOff := by
  unfold dateOfStamp
  split <;> simp

/-- A day that does not exist is a problem. -/
theorem dateOfFault_neverBreaksOff (fault : CalendarFault) : ¬(dateOfFault fault : Checked α).BreaksOff := by
  cases fault <;> simp [dateOfFault]

/-- So a day that is read by way of a stamp is a day or a problem. -/
theorem dateOfReading_neverBreaksOff (r : Except CalendarFault Stamp) : ¬(dateOfReading r).BreaksOff := by
  cases r with
  | ok s => exact dateOfStamp_neverBreaksOff s
  | error fault => exact dateOfFault_neverBreaksOff fault

/-- So is a day that is read from a text. -/
theorem dateOfText_neverBreaksOff (s : String) : ¬(dateOfText s).BreaksOff := by
  unfold dateOfText
  split
  · simp
  · exact dateOfFault_neverBreaksOff _
  · exact dateOfReading_neverBreaksOff _

/-- Whatever is read as a day is one or a problem. -/
theorem date_neverBreaksOff : NeverBreaksOff date := by
  intro v
  unfold date
  split
  · simp
  · exact dateOfStamp_neverBreaksOff _
  · exact dateOfText_neverBreaksOff _
  · split
    · exact dateOfReading_neverBreaksOff _
    · simp
  · exact dateOfReading_neverBreaksOff _
  · split
    · exact dateOfReading_neverBreaksOff _
    · simp
  · simp
  · simp

end Reader

/-! ## Members -/

/-- A member that must be there breaks off where its value does. -/
theorem MemberName.breaksOff_required_iff {n : MemberName} {r : Reader α} {fields : Fields} :
    (n.required r fields).BreaksOff ↔ ∃ name v, n.find? fields = some (name, v) ∧ (r v).BreaksOff := by
  unfold required
  split <;> simp_all

/-- A member that may be missing breaks off where it is there and its value does. -/
theorem MemberName.breaksOff_withDefault_iff {n : MemberName} {r : Reader α} {missing : α} {fields : Fields} :
    (n.withDefault r missing fields).BreaksOff ↔ ∃ name v, n.find? fields = some (name, v) ∧ (r v).BreaksOff := by
  unfold withDefault
  split <;> simp_all

/-- A field of a change breaks off where it is there, is not empty and its value breaks off. -/
theorem FieldEntry.breaksOff_read_iff {n : MemberName} {r : Reader α} {fields : Fields} :
    (FieldEntry.read n r fields).BreaksOff ↔
      ∃ name v, n.find? fields = some (name, v) ∧ (Reader.optional r v).BreaksOff := by
  unfold read
  split <;> simp_all

/-- What may be empty breaks off only where a value of it does. -/
theorem Reader.NeverBreaksOff.optional {r : Reader α} (hr : r.NeverBreaksOff) : (Reader.optional r).NeverBreaksOff := by
  intro v
  unfold Reader.optional
  split
  · simp
  · simpa using hr v

/-! ## The day of an event -/

/-- A value that counts as a day which universal time moves out of the calendar: a stamp, or a text of one. -/
def Value.LosesDay : Value → Prop
  | .text s => 'T' ∈ s.toList ∧ ∃ t, Reader.stamp (.text s) = .ok t ∧ t.utc? = none
  | .stamp t => t.utc? = none
  | _ => False

/-- The day of a stamp is lost where the stamp cannot be moved to universal time. -/
theorem Stamp.breaksOff_utcDay_iff {t : Stamp} : t.utcDay.BreaksOff ↔ t.utc? = none := by
  unfold utcDay
  split <;> simp_all [Checked.BreaksOff]

/-- The day that is taken out of a value is lost exactly where universal time moves it out of the calendar. -/
theorem breaksOff_utcDay_iff {v : Value} : (utcDay v).BreaksOff ↔ v.LosesDay := by
  cases v with
  | text s =>
    have hstamp : ¬(Reader.stamp (.text s)).BreaksOff := Reader.stamp_neverBreaksOff _
    by_cases hT : 'T' ∈ s.toList
    · simp [utcDay, hT, Value.LosesDay, Checked.breaksOff_andThen_iff, Stamp.breaksOff_utcDay_iff, hstamp]
    · simp [utcDay, hT, Value.LosesDay]
  | stamp t => simp [utcDay, Value.LosesDay, Stamp.breaksOff_utcDay_iff]
  | _ => simp [utcDay, Value.LosesDay]

/-- The day of an event is lost where the day that is taken out of its value is: reading it afterwards finds problems at most. -/
theorem breaksOff_eventDay_iff {v : Value} : (eventDay v).BreaksOff ↔ v.LosesDay := by
  have hdate (v' : Value) : ¬(Reader.date v').BreaksOff := Reader.date_neverBreaksOff v'
  simp [eventDay, Checked.breaksOff_andThen_iff, breaksOff_utcDay_iff, hdate]

/-- A day that may be left empty is lost as one that must be there. -/
theorem breaksOff_optional_eventDay_iff {v : Value} : (Reader.optional eventDay v).BreaksOff ↔ v.LosesDay := by
  cases v <;> simp [Reader.optional, breaksOff_eventDay_iff, Value.LosesDay]

/-- The members of an event have a day that universal time moves out of the calendar. -/
def Fields.LoseDay (fields : Fields) : Prop := ∃ name v, MemberName.date.find? fields = some (name, v) ∧ v.LosesDay

/-- The form of a new event breaks off where its day is lost, and nowhere else. -/
theorem NewEvent.form_breaksOff_iff {fields : Fields} : (NewEvent.form.read fields).BreaksOff ↔ fields.LoseDay := by
  have hname (v : Value) : ¬(Reader.boundedText nameMin nameMax v).BreaksOff := Reader.boundedText_neverBreaksOff _ _ v
  have hlocation (v : Value) : ¬(Reader.optional (Reader.boundedText 0 locationMax) v).BreaksOff :=
    (Reader.boundedText_neverBreaksOff _ _).optional v
  simp [NewEvent.form, MemberName.breaksOff_required_iff, MemberName.breaksOff_withDefault_iff, hname, hlocation,
    breaksOff_eventDay_iff, Fields.LoseDay]

/-- The form of a change of an event breaks off where its day is lost, and nowhere else. -/
theorem EventPatch.form_breaksOff_iff {fields : Fields} :
    (EventPatch.form.read fields).BreaksOff ↔ fields.LoseDay := by
  have htext (least most : Nat) (v : Value) : ¬(Reader.optional (Reader.boundedText least most) v).BreaksOff :=
    (Reader.boundedText_neverBreaksOff _ _).optional v
  simp [EventPatch.form, FieldEntry.breaksOff_read_iff, htext, breaksOff_optional_eventDay_iff, Fields.LoseDay]

end RaceAlbum
