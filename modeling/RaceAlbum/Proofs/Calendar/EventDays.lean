import Mathlib.Data.Rat.Floor
import Mathlib.Tactic.FieldSimp
import Mathlib.Tactic.Linarith
import RaceAlbum.Event.Form
import RaceAlbum.Proofs.Calendar.Written
import RaceAlbum.Proofs.Schema.Accepted

/-!
# The day of an event

A written stamp names an instant (`WrittenStamp.instant`), and an instant has a day in universal time. A stamp with the letter
`T` is read as that day (`WrittenStamp.eventDay_eq_ok_iff`). With another separator its offset is not looked at: a midnight is
read as the date that is written, and no other time of day is read (`WrittenStamp.eventDay_separated`).
-/

namespace RaceAlbum

/-- The day of a stamp in universal time is the one that its instant lies in. -/
theorem Stamp.utcDay_eq_ok_iff {s : Stamp} {d : Date} :
    s.utcDay = .ok d ↔ (d.dayNumber : Int) * dayMicros ≤ s.instant ∧ s.instant < (d.dayNumber + 1) * dayMicros := by
  have hday : s.utcDay = .ok d ↔ ∃ m, s.utc? = some m ∧ m.date = d := by
    unfold utcDay
    cases s.utc? <;> simp
  rw [hday]
  constructor
  · rintro ⟨m, hm, rfl⟩
    have hmicros := utc?_micros hm
    have htime := m.time.lt
    unfold Moment.micros dayMicros at *
    omega
  · rintro ⟨hlow, hhigh⟩
    have htime : (s.instant - d.dayNumber * dayMicros).toNat < dayMicros := by
      unfold dayMicros at *
      omega
    refine ⟨⟨d, ⟨_, htime⟩⟩, utc?_eq_some_iff.2 ?_, rfl⟩
    change ((d.dayNumber * dayMicros + (s.instant - d.dayNumber * dayMicros).toNat : Nat) : Int) = s.instant
    push_cast
    rw [Int.toNat_of_nonneg (by linarith)]
    ring

namespace WrittenTime

/-- The seconds since midnight, with the whole fraction. -/
def secondsOfDay (t : WrittenTime) : ℚ :=
  (t.hour * 60 + t.minute) * 60 + t.seconds.second + ofDigits t.seconds.fraction / 10 ^ t.seconds.fraction.length

end WrittenTime

namespace WrittenStamp

/-- The instant that a written stamp names, in seconds since the start of the calendar: what its clock shows, less its offset
from universal time. -/
def instant (w : WrittenStamp) : ℚ := w.date.dayNumber * 86400 + w.time.secondsOfDay - w.zone.seconds

/-- The day of the instant in universal time. -/
def IsUtcDay (w : WrittenStamp) (d : Date) : Prop :=
  (d.dayNumber : ℚ) * 86400 ≤ w.instant ∧ w.instant < (d.dayNumber + 1) * 86400

theorem second_lt (s : WrittenSeconds) : s.second < 60 := by
  cases s <;> simp [WrittenSeconds.second]

/-- The time of day in microseconds. -/
theorem timeOfDay_micros (t : WrittenTime) : t.timeOfDay.micros =
    ((t.hour * 60 + t.minute) * 60 + t.seconds.second) * 1000000 + Reading.fractionMicros t.seconds.fraction := by
  have hsecond := second_lt t.seconds
  have hmicro := Reading.fractionMicros_lt t.seconds.fraction
  refine Nat.mod_eq_of_lt ?_
  unfold dayMicros
  omega

/-- What is read of a stamp is its instant, cut to microseconds. -/
theorem stamp_instant (w : WrittenStamp) : w.stamp.instant = ⌊w.instant * 1000000⌋ := by
  have hbounds := Reading.fractionMicros_bounds w.time.seconds.fraction
  have hpow : (0 : ℚ) < 10 ^ w.time.seconds.fraction.length := by positivity
  symm
  rw [Int.floor_eq_iff]
  have hint : (w.stamp.instant : ℚ) = (w.date.dayNumber * 86400 + ((w.time.hour * 60 + w.time.minute) * 60 +
      w.time.seconds.second) - w.zone.seconds) * 1000000 + Reading.fractionMicros w.time.seconds.fraction := by
    rw [Stamp.instant, stamp, WrittenZone.offset?_getD, Moment.micros, timeOfDay_micros]
    push_cast [dayMicros]
    ring
  have hlow : (Reading.fractionMicros w.time.seconds.fraction : ℚ) ≤
      ofDigits w.time.seconds.fraction / 10 ^ w.time.seconds.fraction.length * 1000000 := by
    rw [div_mul_eq_mul_div, le_div_iff₀ hpow]
    exact_mod_cast hbounds.1
  have hhigh : ofDigits w.time.seconds.fraction / 10 ^ w.time.seconds.fraction.length * 1000000 <
      (Reading.fractionMicros w.time.seconds.fraction : ℚ) + 1 := by
    rw [div_mul_eq_mul_div, div_lt_iff₀ hpow]
    exact_mod_cast hbounds.2
  rw [hint, instant, WrittenTime.secondsOfDay]
  constructor <;> linarith

theorem isUtcDay_iff {w : WrittenStamp} {d : Date} :
    w.IsUtcDay d ↔ (d.dayNumber : Int) * dayMicros ≤ w.stamp.instant ∧ w.stamp.instant < (d.dayNumber + 1) * dayMicros := by
  rw [stamp_instant, Int.le_floor, Int.floor_lt, IsUtcDay]
  push_cast [dayMicros]
  constructor <;> rintro ⟨hlow, hhigh⟩ <;> constructor <;> linarith

/-- Every instant of the calendar has a day in universal time, and no other has one. -/
theorem exists_isUtcDay_iff (w : WrittenStamp) :
    (∃ d, w.IsUtcDay d) ↔ 0 ≤ w.instant ∧ w.instant < (Date.last.dayNumber + 1) * 86400 := by
  constructor
  · rintro ⟨d, hlow, hhigh⟩
    have hlast : (d.dayNumber : ℚ) ≤ Date.last.dayNumber := by exact_mod_cast d.dayNumber_le_last
    have hpos : (0 : ℚ) ≤ d.dayNumber := Nat.cast_nonneg _
    exact ⟨by linarith, by linarith⟩
  · rintro ⟨hlow, hhigh⟩
    have hnonneg : 0 ≤ w.instant / 86400 := by positivity
    have hlt : w.instant / 86400 < (Date.last.dayNumber + 1 : Nat) := by
      rw [div_lt_iff₀ (by norm_num)]
      exact_mod_cast hhigh
    obtain ⟨d, hd⟩ := Date.exists_dayNumber (Nat.le_of_lt_succ ((Nat.floor_lt hnonneg).2 hlt))
    have hfloor := Nat.floor_le hnonneg
    have hceil := Nat.lt_floor_add_one (w.instant / 86400)
    rw [← hd, le_div_iff₀ (by norm_num)] at hfloor
    rw [← hd, div_lt_iff₀ (by norm_num)] at hceil
    exact ⟨d, hfloor, hceil⟩

/-- A stamp without an offset is of the day that is written. -/
theorem isUtcDay_date {w : WrittenStamp} (h : w.zone = .none) : w.IsUtcDay w.date := by
  have htime := w.time.timeOfDay.lt
  have hinstant : w.stamp.instant = w.date.dayNumber * dayMicros + w.time.timeOfDay.micros := by
    rw [Stamp.instant, stamp, h, Moment.micros]
    push_cast [WrittenZone.offset?, Option.getD_none, Offset.utc]
    ring
  rw [isUtcDay_iff, hinstant]
  constructor <;> linarith

/-! ## The letter between the date and the time -/

/-- The letter `T` is in the text of a stamp only as its separator. -/
theorem contains_iff (w : WrittenStamp) (separator : Char) :
    (w.text separator).toList.contains 'T' = true ↔ separator = 'T' := by
  have hdigit : isDigit 'T' = false := by decide
  have hseconds : 'T' ∉ w.time.seconds.chars := by
    rcases hs : w.time.seconds with _ | second | ⟨second, f⟩
    · exact List.not_mem_nil
    · simp [WrittenSeconds.chars, not_mem_paddedDigits hdigit]
    · have hfraction : 'T' ∉ f.digits := fun hmem => by simp [f.isDigit_of_mem 'T' hmem] at hdigit
      have hmark : 'T' ≠ if f.comma then ',' else '.' := by cases f.comma <;> decide
      simp [WrittenSeconds.chars, WrittenFraction.chars, not_mem_paddedDigits hdigit, hfraction, hmark]
  have hzone : 'T' ∉ w.zone.chars := by
    rcases w.zone with _ | small | ⟨sign, hour, colon, minute⟩
    · exact List.not_mem_nil
    · cases small <;> decide
    · have hsign : 'T' ≠ sign.char := by cases sign <;> decide
      cases colon <;> simp [WrittenZone.chars, not_mem_paddedDigits hdigit, hsign]
  simp [text, charsAfterDate, Date.text, WrittenTime.chars, not_mem_paddedDigits hdigit, hseconds, hzone, eq_comm]

/-- A stamp is no timestamp: a hyphen comes after its first digits. -/
theorem timestamp_ofChars? (w : WrittenStamp) (separator : Char) :
    Timestamp.ofChars? (w.text separator).toList = none := by
  have hdigits : ∀ c ∈ paddedDigits 4 w.date.year, isDigit c = true := fun _ => isDigit_of_mem_paddedDigits
  simp only [text, Date.text, String.toList_append, String.toList_ofList, List.append_assoc, List.cons_append]
  cases hyear : paddedDigits 4 w.date.year with
  | nil => exact absurd (congrArg List.length hyear) (by simp)
  | cons d ds => exact Timestamp.ofChars?_eq_none (hyear ▸ hdigits) (by decide) (by decide)

/-- A stamp is no day alone: a separator comes after the day. -/
theorem dayReading_ofText (w : WrittenStamp) (separator : Char) :
    DayReading.ofText (w.text separator) = .refused .trailing := by
  have hday : Reading.wholeDay (w.text separator).toList = .error .trailing := by
    simp only [text, String.toList_append, String.toList_ofList, Reading.wholeDay, Reading.day_text, bind, Except.bind]
    rfl
  rw [DayReading.ofText, hday, timestamp_ofChars?]

/-- The text of a written stamp is that stamp. -/
theorem stamp_ofText (w : WrittenStamp) {separator : Char} (h : Reading.isSeparator separator = true) :
    Stamp.ofText (w.text separator) = .ok w.stamp := by
  rw [Stamp.ofText, Reading.wholeStamp_written w h]

/-- With the letter `T` the day is that of the stamp in universal time. -/
theorem eventDay_text (w : WrittenStamp) : eventDay (.text (w.text 'T')) = w.stamp.utcDay := by
  have hread : Reader.stamp (.text (w.text 'T')) = .ok w.stamp := by
    rw [Reader.stamp, Reader.stampOfText, w.stamp_ofText rfl]
  rw [eventDay, utcDay, if_pos ((w.contains_iff 'T').2 rfl), hread]
  change (w.stamp.utcDay.map .date).andThen Reader.date = _
  cases w.stamp.utcDay <;> rfl

/-- Stamps of one instant are read alike. -/
theorem eventDay_congr {w w' : WrittenStamp} (h : w'.instant = w.instant) :
    eventDay (.text (w'.text 'T')) = eventDay (.text (w.text 'T')) := by
  -- the instants are compared before they are cut to microseconds, and so they are cut alike
  have hutc : w'.stamp.utc? = w.stamp.utc? :=
    Option.ext fun m => by rw [Stamp.utc?_eq_some_iff, Stamp.utc?_eq_some_iff, stamp_instant, stamp_instant, h]
  rw [eventDay_text, eventDay_text, Stamp.utcDay, Stamp.utcDay, hutc]

/-- A stamp with the letter `T` is read as its day in universal time, if that is in the calendar. -/
theorem eventDay_eq_ok_iff {w : WrittenStamp} {d : Date} : eventDay (.text (w.text 'T')) = .ok d ↔ w.IsUtcDay d := by
  rw [eventDay_text, isUtcDay_iff, Stamp.utcDay_eq_ok_iff]

/-- With another separator a stamp goes on to the reader of dates, which does not look at its offset. -/
theorem eventDay_separated (w : WrittenStamp) {separator : Char} (h : Reading.isSeparator separator = true)
    (hT : separator ≠ 'T') : eventDay (.text (w.text separator)) = Reader.dateOfStamp w.stamp := by
  have hplain : ¬(w.text separator).toList.contains 'T' = true := mt (w.contains_iff separator).1 hT
  have hday : utcDay (.text (w.text separator)) = .ok (.text (w.text separator)) := by rw [utcDay, if_neg hplain]
  rw [eventDay, hday, Checked.andThen, Reader.date, Reader.dateOfText, dayReading_ofText, w.stamp_ofText h]
  rfl

/-- The day that each spelling of a stamp is read as. -/
theorem eventDay_spelled_iff {w : WrittenStamp} {separator : Char} {d : Date} (h : Reading.isSeparator separator = true) :
    eventDay (.text (w.text separator)) = .ok d ↔
      if separator = 'T' then w.IsUtcDay d else w.time.timeOfDay.micros = 0 ∧ w.date = d := by
  split
  · subst separator
    exact eventDay_eq_ok_iff
  · rw [eventDay_separated w h ‹_›, Reader.dateOfStamp, Stamp.isMidnight]
    change (if w.time.timeOfDay.micros == 0 then Checked.ok w.date else _) = _ ↔ _
    by_cases hmidnight : w.time.timeOfDay.micros = 0 <;> simp [hmidnight, Checked.complain]

/-- An instant has one day. -/
theorem IsUtcDay.unique {w : WrittenStamp} {d e : Date} (hd : w.IsUtcDay d) (he : w.IsUtcDay e) : d = e :=
  Checked.ok.inj ((eventDay_eq_ok_iff.2 hd).symm.trans (eventDay_eq_ok_iff.2 he))

/-- At midnight the written date is that of universal time unless the clock is ahead of it. -/
theorem isUtcDay_date_iff {w : WrittenStamp} (h : w.time.timeOfDay.micros = 0) :
    w.IsUtcDay w.date ↔ w.zone.seconds ≤ 0 := by
  have hzone := w.zone.seconds_bounds
  have hinstant : w.stamp.instant = w.date.dayNumber * dayMicros - w.zone.seconds * 1000000 := by
    rw [Stamp.instant, stamp, WrittenZone.offset?_getD, Moment.micros, h]
    push_cast
    ring
  rw [isUtcDay_iff, hinstant]
  unfold dayMicros
  omega

/-- At midnight the day in universal time is the written date unless the clock is ahead of it. -/
theorem IsUtcDay.eq_date_iff {w : WrittenStamp} {d : Date} (hd : w.IsUtcDay d) (h : w.time.timeOfDay.micros = 0) :
    d = w.date ↔ w.zone.seconds ≤ 0 := by
  rw [← isUtcDay_date_iff h]
  exact ⟨fun heq => heq ▸ hd, fun hdate => hd.unique hdate⟩

end WrittenStamp

/-! ## Forms -/

/-- A new event whose day is read has that day; the rest of it is read as ever. -/
theorem NewEvent.form_read_of_day {fields : Fields} {key : String} {v : Value} {d : Date}
    (hfind : MemberName.date.find? fields = some (key, v)) (hday : eventDay v = .ok d) :
    NewEvent.form.read fields = (fun name location => ⟨name, d, location⟩) <$>
      MemberName.required .name (Reader.boundedText nameMin nameMax) fields <*>
      MemberName.withDefault .location (Reader.optional (Reader.boundedText 0 locationMax)) none fields := by
  have hread : MemberName.date.required eventDay fields = .ok d := by
    rw [MemberName.required, hfind]
    exact Checked.under_eq_ok_iff.2 hday
  change NewEvent.mk <$> _ <*> _ <*> _ = _
  rw [hread]
  cases MemberName.required .name (Reader.boundedText nameMin nameMax) fields <;> rfl

/-- The change of an event whose day is read has that day; the rest of it is read as ever. -/
theorem EventPatch.form_read_of_day {fields : Fields} {key s : String} {d : Date}
    (hfind : MemberName.date.find? fields = some (key, .text s)) (hday : eventDay (.text s) = .ok d) :
    EventPatch.form.read fields = (fun name location => ⟨name, .value d, location⟩) <$>
      FieldEntry.read .name (Reader.boundedText nameMin nameMax) fields <*>
      FieldEntry.read .location (Reader.boundedText 0 locationMax) fields := by
  have hread : FieldEntry.read .date eventDay fields = .ok (.value d) := by
    rw [FieldEntry.read, hfind]
    change ((Checked.map some (eventDay (.text s))).under _).map _ = _
    rw [hday]
    rfl
  change EventPatch.mk <$> _ <*> _ <*> _ = _
  rw [hread]
  cases FieldEntry.read .name (Reader.boundedText nameMin nameMax) fields <;> rfl

/-- The day of a new event was read from its member. -/
theorem NewEvent.eventDay_of_form {fields : Fields} {key : String} {v : Value} {e : NewEvent}
    (hfind : MemberName.date.find? fields = some (key, v)) (h : NewEvent.form.read fields = .ok e) :
    eventDay v = .ok e.date := by
  change NewEvent.mk <$> _ <*> _ <*> _ = _ at h
  obtain ⟨_, location, hfront, -, rfl⟩ := Checked.seq_eq_ok_iff.1 h
  obtain ⟨_, d, hname, hday, rfl⟩ := Checked.seq_eq_ok_iff.1 hfront
  obtain ⟨name, -, rfl⟩ := Checked.map_eq_ok_iff.1 hname
  rw [MemberName.required, hfind] at hday
  exact Checked.under_eq_ok_iff.1 hday

/-- **A stamp is sent as the day of an event.** With the letter `T` between a date and a time it is read as the day of its
instant in universal time, by both forms and whatever else they hold, as long as that day is in the calendar; without an offset
this is the date that is written. Stamps of one instant are read alike. The offsets are all that the reader of stamps accepts. -/
theorem written_stamp_gives_utcDay (w : WrittenStamp) :
    (∀ d, w.IsUtcDay d → eventDay (.text (w.text 'T')) = .ok d ∧
      ∀ (fields : Fields) (key : String), MemberName.date.find? fields = some (key, .text (w.text 'T')) →
        NewEvent.form.read fields = (fun name location => ⟨name, d, location⟩) <$>
          MemberName.required .name (Reader.boundedText nameMin nameMax) fields <*>
          MemberName.withDefault .location (Reader.optional (Reader.boundedText 0 locationMax)) none fields ∧
        EventPatch.form.read fields = (fun name location => ⟨name, .value d, location⟩) <$>
          FieldEntry.read .name (Reader.boundedText nameMin nameMax) fields <*>
          FieldEntry.read .location (Reader.boundedText 0 locationMax) fields) ∧
      ((∃ d, w.IsUtcDay d) ↔ 0 ≤ w.instant ∧ w.instant < (Date.last.dayNumber + 1) * 86400) ∧
      (w.zone = .none → w.IsUtcDay w.date) ∧
      (∀ w' : WrittenStamp, w'.instant = w.instant → eventDay (.text (w'.text 'T')) = eventDay (.text (w.text 'T'))) ∧
      ∀ cs o, Reading.zone cs = .ok (o, []) ↔ ∃ z : WrittenZone, z.chars = cs ∧ z.offset? = o := by
  refine ⟨fun d hd => ?_, w.exists_isUtcDay_iff, WrittenStamp.isUtcDay_date, fun w' => WrittenStamp.eventDay_congr,
    fun _ _ => Reading.zone_eq_iff⟩
  have hday := WrittenStamp.eventDay_eq_ok_iff.2 hd
  exact ⟨hday, fun fields key hfind =>
    ⟨NewEvent.form_read_of_day hfind hday, EventPatch.form_read_of_day hfind hday⟩⟩

/-- Half past eleven in the evening of a leap day, five hours behind universal time. -/
def leapNight : WrittenStamp where
  date := ⟨2028, 2, 29, by decide⟩
  time := ⟨23, 30, .fractional 0 ⟨true, ['5'], List.forall_mem_singleton.2 rfl, by decide⟩⟩
  zone := .signed .minus 5 false 0

/-- It is the first of March there. -/
theorem leapNight_is_march : leapNight.text 'T' = "2028-02-29T23:30:00,5−0500" ∧
    NewEvent.form.read [("name", .text "Tour"), ("date", .text (leapNight.text 'T'))] =
      .ok ⟨"Tour", ⟨2028, 3, 1, by decide⟩, none⟩ := by
  have hday : leapNight.IsUtcDay ⟨2028, 3, 1, by decide⟩ := by
    have hnumber : Date.dayNumber ⟨2028, 3, 1, by decide⟩ = leapNight.date.dayNumber + 1 := by decide
    have htime : leapNight.time.secondsOfDay = 84600.5 := by
      have hfraction : ofDigits ['5'] = 5 := by decide
      change (((23 : ℕ) : ℚ) * 60 + (30 : ℕ)) * 60 + (0 : ℕ) + (ofDigits ['5'] : ℕ) / 10 ^ 1 = _
      rw [hfraction]
      norm_num
    have hzone : leapNight.zone.seconds = -18000 := by decide
    rw [WrittenStamp.IsUtcDay, WrittenStamp.instant, hnumber, htime, hzone]
    push_cast
    constructor <;> linarith
  have hread := ((written_stamp_gives_utcDay leapNight).1 _ hday).2
    [("name", .text "Tour"), ("date", .text (leapNight.text 'T'))] "date" rfl
  exact ⟨by decide +kernel, hread.1⟩

/-- **Where the spelling of the day of an event matters.** A stamp is written with two separators, and a new event is read with
each. Its day is the one in universal time if the separator is the letter `T`, or if the clock of the stamp is not ahead of
universal time. So both days are the same unless only one separator is the letter and the clock is ahead. -/
theorem spelled_days_agree_iff {w : WrittenStamp} {c c' : Char} {fields fields' : Fields} {key key' : String}
    {e e' : NewEvent} (hc : Reading.isSeparator c = true) (hc' : Reading.isSeparator c' = true)
    (hfind : MemberName.date.find? fields = some (key, .text (w.text c)))
    (hfind' : MemberName.date.find? fields' = some (key', .text (w.text c')))
    (he : NewEvent.form.read fields = .ok e) (he' : NewEvent.form.read fields' = .ok e') :
    (w.IsUtcDay e.date ↔ c = 'T' ∨ w.zone.seconds ≤ 0) ∧
      (e.date = e'.date ↔ (c = 'T' ↔ c' = 'T') ∨ w.zone.seconds ≤ 0) := by
  have hday := (WrittenStamp.eventDay_spelled_iff hc).1 (NewEvent.eventDay_of_form hfind he)
  have hday' := (WrittenStamp.eventDay_spelled_iff hc').1 (NewEvent.eventDay_of_form hfind' he')
  by_cases hT : c = 'T' <;> by_cases hT' : c' = 'T' <;> simp only [hT, hT', if_true, if_false] at hday hday'
  · exact ⟨by simp [hT, hday], by simp [hT, hT', hday.unique hday']⟩
  · obtain ⟨hmidnight, hwritten⟩ := hday'
    have hsame := hday.eq_date_iff hmidnight
    rw [hwritten] at hsame
    exact ⟨by simp [hT, hday], by simp [hT, hT', hsame]⟩
  · obtain ⟨hmidnight, hwritten⟩ := hday
    have hsame := hday'.eq_date_iff hmidnight
    rw [hwritten, eq_comm] at hsame
    exact ⟨by simp [hT, ← hwritten, WrittenStamp.isUtcDay_date_iff hmidnight], by simp [hT, hT', hsame]⟩
  · obtain ⟨hmidnight, hwritten⟩ := hday
    exact ⟨by simp [hT, ← hwritten, WrittenStamp.isUtcDay_date_iff hmidnight], by simp [hT, hT', ← hwritten, hday'.2]⟩

/-- Midnight of the first of March, five hours behind universal time. -/
def westMidnight : WrittenStamp := ⟨⟨2026, 3, 1, by decide⟩, ⟨0, 0, .whole 0⟩, .signed .hyphen 5 true 0⟩

/-- It is the first of March in universal time too, and read so with both spellings. -/
theorem westMidnight_keeps_its_day :
    NewEvent.form.read [("name", .text "Tour"), ("date", .text (westMidnight.text '_'))] =
        .ok ⟨"Tour", ⟨2026, 3, 1, by decide⟩, none⟩ ∧
      NewEvent.form.read [("name", .text "Tour"), ("date", .text (westMidnight.text 'T'))] =
        .ok ⟨"Tour", ⟨2026, 3, 1, by decide⟩, none⟩ ∧
      westMidnight.IsUtcDay ⟨2026, 3, 1, by decide⟩ := by
  have hline : NewEvent.form.read [("name", .text "Tour"), ("date", .text (westMidnight.text '_'))] =
      .ok ⟨"Tour", ⟨2026, 3, 1, by decide⟩, none⟩ := Checked.eq_ok_of_gives (by decide +kernel)
  have hletter : NewEvent.form.read [("name", .text "Tour"), ("date", .text (westMidnight.text 'T'))] =
      .ok ⟨"Tour", ⟨2026, 3, 1, by decide⟩, none⟩ := Checked.eq_ok_of_gives (by decide +kernel)
  exact ⟨hline, hletter, (spelled_days_agree_iff rfl rfl rfl rfl hline hletter).1.2 (.inr (by decide))⟩

/-- Two hours ahead of universal time the spellings of a midnight are two days. -/
theorem eastMidnight_is_two_days :
    NewEvent.form.read [("name", .text "Tour"), ("date", .text "2025-07-01T00:00:00+02:00")] =
        .ok ⟨"Tour", ⟨2025, 6, 30, by decide⟩, none⟩ ∧
      NewEvent.form.read [("name", .text "Tour"), ("date", .text "2025-07-01 00:00:00+02:00")] =
        .ok ⟨"Tour", ⟨2025, 7, 1, by decide⟩, none⟩ ∧
      (⟨2025, 6, 30, by decide⟩ : Date) ≠ ⟨2025, 7, 1, by decide⟩ :=
  ⟨Checked.eq_ok_of_gives (by decide +kernel), Checked.eq_ok_of_gives (by decide +kernel), by decide⟩

end RaceAlbum
