import RaceAlbum.Calendar.Stamp

/-!
# Instants

The count of days goes along with the order of dates, and with their neighbours. So moments are ordered as the microseconds
since the start of the calendar (`Moment.micros_le_iff`), and a stamp that is moved to universal time names the instant that
its wall clock shows there (`Stamp.utc?_micros`), whatever its offset. Only an instant outside of the calendar cannot be moved
(`Stamp.utc?_eq_some_iff`).
-/

namespace RaceAlbum

/-! ## Times of day -/

namespace TimeOfDay

/-- The parts of a time of day stay below their limits. -/
theorem parts_lt (t : TimeOfDay) : t.hour < 24 ∧ t.minute < 60 ∧ t.second < 60 ∧ t.micro < 1000000 := by
  have hlt := t.lt
  unfold dayMicros at hlt
  simp only [hour, minute, second, micro]
  omega

/-- A time of day is made of its parts. -/
theorem ofParts_parts (t : TimeOfDay) : ofParts t.hour t.minute t.second t.micro = t := by
  obtain ⟨micros, hlt⟩ := t
  unfold dayMicros at hlt
  have hmicros : (((micros / 3600000000 * 60 + micros / 60000000 % 60) * 60 + micros / 1000000 % 60) * 1000000 +
      micros % 1000000) % 86400000000 = micros := by omega
  simp only [ofParts, ofMicros, hour, minute, second, micro, dayMicros, hmicros]

/-- Parts that are in their bounds are those of the time that is made of them. -/
theorem parts_ofParts {hours minutes seconds micros : Nat} (hhours : hours < 24) (hminutes : minutes < 60)
    (hseconds : seconds < 60) (hmicros : micros < 1000000) :
    (ofParts hours minutes seconds micros).hour = hours ∧ (ofParts hours minutes seconds micros).minute = minutes ∧
      (ofParts hours minutes seconds micros).second = seconds ∧ (ofParts hours minutes seconds micros).micro = micros := by
  simp only [ofParts, ofMicros, hour, minute, second, micro, dayMicros]
  omega

end TimeOfDay

/-! ## Dates -/

namespace Date

/-- A date that is made of three numbers has them. -/
theorem of?_eq_some {y m d : Nat} {e : Date} (h : of? y m d = some e) : e.year = y ∧ e.month = m ∧ e.day = d := by
  unfold of? at h
  split at h
  · obtain rfl := Option.some.inj h
    exact ⟨rfl, rfl, rfl⟩
  · cases h

/-- Dates of the same parts are the same. -/
theorem eq_of_parts {d e : Date} (hy : d.year = e.year) (hm : d.month = e.month) (hd : d.day = e.day) : d = e := by
  cases d
  cases e
  simp only at hy hm hd
  subst hy hm hd
  rfl

/-- No month has more than thirty-one days. -/
theorem monthLength_le (y m : Nat) : monthLength y m ≤ 31 := by
  unfold monthLength
  split <;> split <;> omega

/-- The days before a month are those before the last one and those of it. -/
theorem daysBeforeMonth_succ (y : Nat) {m : Nat} (hm : 1 ≤ m) :
    daysBeforeMonth y (m + 1) = daysBeforeMonth y m + monthLength y m := by
  cases m with
  | zero => omega
  | succ m => rfl

/-- The further a month, the more days are before it. -/
theorem daysBeforeMonth_le (y : Nat) {m n : Nat} (hm : 1 ≤ m) (hmn : m ≤ n) :
    daysBeforeMonth y m ≤ daysBeforeMonth y n := by
  induction hmn with
  | refl => exact Nat.le_refl _
  | @step n hmn ih =>
    have hn : 1 ≤ n := Nat.le_trans hm hmn
    rw [daysBeforeMonth_succ y hn]
    omega

/-- Every fourth year is a leap year, but of the hundredth ones only every fourth. -/
theorem isLeapYear_iff {y : Nat} : isLeapYear y = true ↔ 4 ∣ y ∧ (¬100 ∣ y ∨ 400 ∣ y) := by
  simp [isLeapYear, Nat.dvd_iff_mod_eq_zero]

/-- A year has the days of its twelve months. -/
theorem daysBeforeYear_succ {y : Nat} (hy : 1 ≤ y) :
    daysBeforeYear (y + 1) = daysBeforeYear y + daysBeforeMonth y 13 := by
  have hmonths : daysBeforeMonth y 13 = if isLeapYear y then 366 else 365 := by
    by_cases hleap : isLeapYear y = true <;> simp [daysBeforeMonth, monthLength, hleap]
  have hcentury : 100 ∣ y → 4 ∣ y := Nat.dvd_trans (by decide)
  have hcycle : 400 ∣ y → 100 ∣ y := Nat.dvd_trans (by decide)
  rw [hmonths]
  obtain ⟨n, rfl⟩ : ∃ n, y = n + 1 := ⟨y - 1, by omega⟩
  -- One more year is one more of each kind that it is a multiple of.
  simp only [daysBeforeYear, Nat.add_sub_cancel, Nat.succ_div (a := n)]
  by_cases h4 : 4 ∣ n + 1
  · by_cases h100 : 100 ∣ n + 1
    · by_cases h400 : 400 ∣ n + 1
      · rw [if_pos h4, if_pos h100, if_pos h400, if_pos (isLeapYear_iff.2 ⟨h4, .inr h400⟩)]
        omega
      · have hnot : ¬isLeapYear (n + 1) = true := fun h => (isLeapYear_iff.1 h).2.elim (absurd h100) h400
        rw [if_pos h4, if_pos h100, if_neg h400, if_neg hnot]
        omega
    · rw [if_pos h4, if_neg h100, if_neg (mt hcycle h100), if_pos (isLeapYear_iff.2 ⟨h4, .inl h100⟩)]
      omega
  · have h100 := mt hcentury h4
    have hnot : ¬isLeapYear (n + 1) = true := fun h => h4 (isLeapYear_iff.1 h).1
    rw [if_neg h4, if_neg h100, if_neg (mt hcycle h100), if_neg hnot]
    omega

/-- The further a year, the more days are before it. -/
theorem daysBeforeYear_le {y z : Nat} (hy : 1 ≤ y) (hyz : y ≤ z) : daysBeforeYear y ≤ daysBeforeYear z := by
  induction hyz with
  | refl => exact Nat.le_refl _
  | @step z hyz ih =>
    have hz : 1 ≤ z := Nat.le_trans hy hyz
    rw [daysBeforeYear_succ hz]
    omega

/-- A date lies before the next month begins. -/
theorem dayNumber_lt_month (d : Date) : d.dayNumber < daysBeforeYear d.year + daysBeforeMonth d.year (d.month + 1) := by
  have hpos := d.valid.day_pos
  have hle := d.valid.day_le
  rw [daysBeforeMonth_succ d.year d.valid.month_pos, dayNumber]
  omega

/-- A date lies before the next year begins. -/
theorem dayNumber_lt_year (d : Date) : d.dayNumber < daysBeforeYear (d.year + 1) := by
  have hmonth := d.dayNumber_lt_month
  have hle : d.month + 1 ≤ 13 := Nat.succ_le_succ d.valid.month_le
  have hyear := daysBeforeMonth_le d.year (Nat.le_add_left 1 d.month) hle
  rw [daysBeforeYear_succ d.valid.year_pos]
  omega

/-- The key of a date orders by year, then by month, then by day. -/
theorem key_lt_iff {d e : Date} :
    d.key < e.key ↔ d.year < e.year ∨ (d.year = e.year ∧ (d.month < e.month ∨ (d.month = e.month ∧ d.day < e.day))) := by
  have hd := Nat.le_trans d.valid.day_le (monthLength_le _ _)
  have he := Nat.le_trans e.valid.day_le (monthLength_le _ _)
  have hdm := d.valid.month_le
  have hem := e.valid.month_le
  unfold key
  omega

/-- Of two dates the earlier one has the smaller number. -/
theorem dayNumber_lt {d e : Date} (h : d.key < e.key) : d.dayNumber < e.dayNumber := by
  rcases key_lt_iff.1 h with hy | ⟨hy, hm | ⟨hm, hd⟩⟩
  · have hlt := d.dayNumber_lt_year
    have hle := daysBeforeYear_le (Nat.le_add_left 1 d.year) hy
    unfold dayNumber at hlt ⊢
    omega
  · have hlt := d.dayNumber_lt_month
    have hle := daysBeforeMonth_le d.year (Nat.le_add_left 1 d.month) hm
    unfold dayNumber at hlt ⊢
    rw [← hy]
    omega
  · have hpos := d.valid.day_pos
    unfold dayNumber
    rw [hy, hm]
    omega

/-- A date is told by its year, its month and its day. -/
theorem eq_of_key {d e : Date} (h : d.key = e.key) : d = e := by
  have hde : ¬d.key < e.key := by omega
  have hed : ¬e.key < d.key := by omega
  rw [key_lt_iff] at hde hed
  exact eq_of_parts (by omega) (by omega) (by omega)

/-- Dates are ordered as the days before them. -/
theorem dayNumber_le_iff {d e : Date} : d.dayNumber ≤ e.dayNumber ↔ d.key ≤ e.key := by
  constructor
  · intro h
    refine Nat.le_of_not_lt fun hlt => ?_
    have := dayNumber_lt hlt
    omega
  · intro h
    rcases Nat.lt_or_eq_of_le h with hlt | heq
    · exact Nat.le_of_lt (dayNumber_lt hlt)
    · exact Nat.le_of_eq (congrArg dayNumber (eq_of_key heq))

/-! ## Neighbours -/

/-- The next date has the next number. -/
theorem dayNumber_next {d e : Date} (h : d.next? = some e) : e.dayNumber = d.dayNumber + 1 := by
  have hpos := d.valid.day_pos
  have hle := d.valid.day_le
  unfold next? at h
  unfold dayNumber
  split at h
  · obtain ⟨hy, hm, hd⟩ := of?_eq_some h
    rw [hy, hm, hd]
    omega
  · split at h
    · obtain ⟨hy, hm, hd⟩ := of?_eq_some h
      rw [hy, hm, hd, daysBeforeMonth_succ d.year d.valid.month_pos]
      omega
    · obtain ⟨hy, hm, hd⟩ := of?_eq_some h
      have hmonth : d.month = 12 := by
        have := d.valid.month_le
        omega
      rw [hmonth] at hle ‹¬d.day < monthLength d.year d.month›
      have hyear : daysBeforeMonth d.year 13 = daysBeforeMonth d.year 12 + monthLength d.year 12 := rfl
      rw [hy, hm, hd, hmonth, daysBeforeYear_succ d.valid.year_pos, hyear]
      simp only [daysBeforeMonth]
      omega

/-- The date before has the number before. -/
theorem dayNumber_previous {d e : Date} (h : d.previous? = some e) : e.dayNumber + 1 = d.dayNumber := by
  have hpos := d.valid.day_pos
  have hmonth := d.valid.month_pos
  unfold previous? at h
  unfold dayNumber
  split at h
  · obtain ⟨hy, hm, hd⟩ := of?_eq_some h
    rw [hy, hm, hd]
    omega
  · split at h
    · obtain ⟨hy, hm, hd⟩ := of?_eq_some h
      obtain ⟨n, hn⟩ : ∃ n, d.month = n + 1 := ⟨d.month - 1, by omega⟩
      have hlength := e.valid.day_pos
      rw [hd] at hlength
      have hn1 : 1 ≤ n := by omega
      rw [hn] at hlength hm hd ⊢
      rw [Nat.add_sub_cancel] at hlength hm hd
      rw [hy, hm, hd, daysBeforeMonth_succ d.year hn1]
      omega
    · obtain ⟨hy, hm, hd⟩ := of?_eq_some h
      obtain ⟨n, hn⟩ : ∃ n, d.year = n + 1 := ⟨d.year - 1, by have := d.valid.year_pos; omega⟩
      have hmonth1 : d.month = 1 := by omega
      have hn1 : 1 ≤ n := by
        have := e.valid.year_pos
        omega
      have hyear : daysBeforeMonth n 13 = daysBeforeMonth n 12 + 31 := rfl
      rw [hy, hm, hd, hn, hmonth1, Nat.add_sub_cancel, daysBeforeYear_succ hn1, hyear]
      simp only [daysBeforeMonth]
      omega

/-- Every month has a day. -/
theorem monthLength_pos (y m : Nat) : 1 ≤ monthLength y m := by
  unfold monthLength
  split <;> split <;> omega

/-- Three numbers of which no date is made are none of a date. -/
theorem not_valid_of_of? {y m d : Nat} (h : of? y m d = none) : ¬Valid y m d := by
  unfold of? at h
  split at h
  · cases h
  · assumption

/-- Only the first day has none before it. -/
theorem eq_first_of_previous? {d : Date} (h : d.previous? = none) : d = first := by
  have hvalid := d.valid
  have hday := hvalid.day_pos
  have hmonth := hvalid.month_pos
  have hyear := hvalid.year_pos
  unfold previous? at h
  split at h
  · refine absurd { hvalid with day_pos := ?_, day_le := ?_ } (not_valid_of_of? h)
    · omega
    · exact Nat.le_trans (Nat.sub_le _ _) hvalid.day_le
  · split at h
    · have hlength := monthLength_pos d.year (d.month - 1)
      refine absurd ⟨hyear, hvalid.year_le, ?_, ?_, hlength, Nat.le_refl _⟩ (not_valid_of_of? h)
      · omega
      · exact Nat.le_trans (Nat.sub_le _ _) hvalid.month_le
    · have hbefore : ¬1 ≤ d.year - 1 := fun hyear1 => not_valid_of_of? h
        ⟨hyear1, Nat.le_trans (Nat.sub_le _ _) hvalid.year_le, by decide, by decide, by decide, Nat.le_refl 31⟩
      have hfirst : d.year = 1 := by omega
      exact eq_of_parts hfirst (by change d.month = 1; omega) (by change d.day = 1; omega)

/-- Only the last day has none after it. -/
theorem eq_last_of_next? {d : Date} (h : d.next? = none) : d = last := by
  have hvalid := d.valid
  have hday := hvalid.day_le
  have hmonth := hvalid.month_le
  have hyear := hvalid.year_le
  unfold next? at h
  split at h
  · exact absurd { hvalid with day_pos := Nat.le_add_left 1 _, day_le := ‹_› } (not_valid_of_of? h)
  · split at h
    · have hlength := monthLength_pos d.year (d.month + 1)
      exact absurd ⟨hvalid.year_pos, hyear, Nat.le_add_left 1 _, ‹_›, Nat.le_refl 1, hlength⟩ (not_valid_of_of? h)
    · have hafter : ¬d.year + 1 ≤ 9999 := fun hyear1 => not_valid_of_of? h
        ⟨Nat.le_add_left 1 _, hyear1, by decide, by decide, by decide, monthLength_pos _ _⟩
      have hlast : d.year = 9999 := by omega
      have hdecember : d.month = 12 := by omega
      have hlength : monthLength d.year d.month = 31 := by
        rw [hdecember]
        rfl
      exact eq_of_parts hlast hdecember (by change d.day = 31; omega)

/-- No day comes after the last. -/
theorem dayNumber_le_last (d : Date) : d.dayNumber ≤ last.dayNumber := by
  refine dayNumber_le_iff.2 ?_
  have hvalid := d.valid
  have hyear := hvalid.year_le
  have hmonth := hvalid.month_le
  have hday := Nat.le_trans hvalid.day_le (monthLength_le d.year d.month)
  change d.year * 10000 + d.month * 100 + d.day ≤ 9999 * 10000 + 12 * 100 + 31
  omega

/-- Every number of days up to the last is that of a day. -/
theorem exists_dayNumber {n : Nat} (h : n ≤ last.dayNumber) : ∃ d : Date, d.dayNumber = n := by
  induction n with
  | zero => exact ⟨first, rfl⟩
  | succ n ih =>
    obtain ⟨d, rfl⟩ := ih (Nat.le_of_succ_le h)
    cases hnext : d.next? with
    | none => exact absurd h (by rw [eq_last_of_next? hnext]; exact Nat.not_succ_le_self _)
    | some e => exact ⟨e, dayNumber_next hnext⟩

end Date

/-! ## Moments -/

/-- Moments are ordered as the microseconds since the start of the calendar. -/
theorem Moment.micros_le_iff {m n : Moment} : m.micros ≤ n.micros ↔ m.key ≤ n.key := by
  have hm := m.time.lt
  have hn := n.time.lt
  have hle : m.date.dayNumber ≤ n.date.dayNumber ↔ m.date.key ≤ n.date.key := Date.dayNumber_le_iff
  have hge : n.date.dayNumber ≤ m.date.dayNumber ↔ n.date.key ≤ m.date.key := Date.dayNumber_le_iff
  unfold micros key dayMicros at *
  omega

/-- A moment is told by its date and its time of day. -/
theorem Moment.eq_of_key {m n : Moment} (h : m.key = n.key) : m = n := by
  have hm := m.time.lt
  have hn := n.time.lt
  unfold key dayMicros at *
  have hdate : m.date = n.date := Date.eq_of_key (by omega)
  have htime : m.time.micros = n.time.micros := by omega
  obtain ⟨d, ⟨t, ht⟩⟩ := m
  obtain ⟨d', ⟨t', ht'⟩⟩ := n
  simp only at hdate htime
  subst hdate htime
  rfl

/-- It is told by its microseconds since the first one. -/
theorem Moment.eq_of_micros {m n : Moment} (h : m.micros = n.micros) : m = n := by
  have hle := micros_le_iff.1 (Nat.le_of_eq h)
  have hge := micros_le_iff.1 (Nat.le_of_eq h.symm)
  exact eq_of_key (by omega)

/-! ## Stamps -/

/-- The instant that a stamp names, in microseconds since the start of the calendar: what its wall clock shows, less its
offset from universal time. A stamp without an offset is one of universal time. -/
def Stamp.instant (s : Stamp) : Int := (s.wall.micros : Int) - (s.offset.getD .utc).seconds * 1000000

/-- A stamp that is moved to universal time names the same instant. -/
theorem Stamp.utc?_micros {s : Stamp} {m : Moment} (h : s.utc? = some m) : (m.micros : Int) = s.instant := by
  simp only [utc?, shiftToUtc?] at h
  unfold instant
  generalize s.offset.getD .utc = o at h ⊢
  have hbounds := o.bounds
  have htime := s.wall.time.lt
  unfold Moment.micros
  unfold dayMicros at *
  split at h
  · obtain ⟨d, hd, rfl⟩ := Option.map_eq_some_iff.1 h
    have hday := Date.dayNumber_previous hd
    simp only [TimeOfDay.ofMicros, dayMicros] at *
    omega
  · split at h
    · obtain rfl := Option.some.inj h
      simp only [TimeOfDay.ofMicros, dayMicros] at *
      omega
    · obtain ⟨d, hd, rfl⟩ := Option.map_eq_some_iff.1 h
      have hday := Date.dayNumber_next hd
      simp only [TimeOfDay.ofMicros, dayMicros] at *
      omega

/-- A stamp can be moved to universal time if its instant is in the calendar. -/
theorem Stamp.utc?_eq_some_iff {s : Stamp} {m : Moment} : s.utc? = some m ↔ (m.micros : Int) = s.instant := by
  refine ⟨utc?_micros, fun h => ?_⟩
  cases hutc : s.utc? with
  | some n =>
    have hmicros := utc?_micros hutc
    rw [Moment.eq_of_micros (m := n) (n := m) (by omega)]
  | none =>
    exfalso
    have hday := m.date.dayNumber_le_last
    have htime := m.time.lt
    simp only [utc?, shiftToUtc?] at hutc
    unfold instant at h
    generalize s.offset.getD .utc = o at h hutc
    unfold Moment.micros dayMicros at *
    split at hutc
    · have hfirst : s.wall.date.dayNumber = 0 := by
        rw [Date.eq_first_of_previous? (Option.map_eq_none_iff.1 hutc)]
        rfl
      omega
    · split at hutc
      · cases hutc
      · rw [Date.eq_last_of_next? (Option.map_eq_none_iff.1 hutc)] at h
        omega

end RaceAlbum
