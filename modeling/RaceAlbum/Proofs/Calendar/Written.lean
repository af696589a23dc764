import Mathlib.Data.String.Basic
import RaceAlbum.Calendar.Reading
import RaceAlbum.Proofs.Calendar.Instants
import RaceAlbum.Proofs.Number.Digits

/-!
# Stamps as they are written

A written stamp is a date, a separator, a time of day with or without seconds and a fraction of any length, and an offset in
any of its spellings (`WrittenStamp`). The reader of stamps reads each of them (`Reading.wholeStamp_written`): the fraction is
cut to microseconds. No other offset is read to its end (`Reading.zone_eq_iff`).
-/

namespace RaceAlbum

/-- A fraction of a second: a point or a comma, and digits after it. -/
structure WrittenFraction where
  comma : Bool
  digits : List Char
  isDigit_of_mem : ∀ d ∈ digits, isDigit d = true
  digits_ne_nil : digits ≠ []

/-- The characters of a fraction. -/
def WrittenFraction.chars (f : WrittenFraction) : List Char := (if f.comma then ',' else '.') :: f.digits

/-- The seconds of a time of day, which may be left out. -/
inductive WrittenSeconds where
  | none
  | whole (second : Fin 60)
  | fractional (second : Fin 60) (f : WrittenFraction)

namespace WrittenSeconds

/-- The characters of the seconds. -/
def chars : WrittenSeconds → List Char
  | none => []
  | whole s => ':' :: paddedDigits 2 s
  | fractional s f => ':' :: paddedDigits 2 s ++ f.chars

/-- The whole seconds. -/
def second : WrittenSeconds → Nat
  | none => 0
  | whole s => s
  | fractional s _ => s

/-- The digits of the fraction. -/
def fraction : WrittenSeconds → List Char
  | fractional _ f => f.digits
  | _ => []

end WrittenSeconds

/-- A time of day. -/
structure WrittenTime where
  hour : Fin 24
  minute : Fin 60
  seconds : WrittenSeconds

namespace WrittenTime

/-- The characters of a time of day. -/
def chars (t : WrittenTime) : List Char := paddedDigits 2 t.hour ++ ':' :: paddedDigits 2 t.minute ++ t.seconds.chars

/-- The time of day to the microsecond: what is below is cut off. -/
def timeOfDay (t : WrittenTime) : TimeOfDay :=
  .ofParts t.hour t.minute t.seconds.second (Reading.fractionMicros t.seconds.fraction)

end WrittenTime

/-- The sign of an offset. There are two characters for minus. -/
inductive ZoneSign where
  | plus
  | hyphen
  | minus

namespace ZoneSign

/-- The character of a sign. -/
def char : ZoneSign → Char
  | plus => '+'
  | hyphen => '-'
  | minus => '−'

/-- Whether a sign stands for the west. -/
def isNegative : ZoneSign → Bool
  | plus => false
  | _ => true

end ZoneSign

/-- An offset from universal time: none, a letter for universal time itself, or a sign with hours and minutes, between which a
colon may stand. -/
inductive WrittenZone where
  | none
  | universal (small : Bool)
  | signed (sign : ZoneSign) (hour : Fin 24) (colon : Bool) (minute : Fin 60)

namespace WrittenZone

/-- The characters of an offset. -/
def chars : WrittenZone → List Char
  | none => []
  | universal small => [if small then 'z' else 'Z']
  | signed sign hour colon minute =>
    sign.char :: paddedDigits 2 hour ++ (if colon then [':'] else []) ++ paddedDigits 2 minute

/-- The seconds that a clock of this offset is ahead of universal time. -/
def seconds : WrittenZone → Int
  | signed sign hour _ minute =>
    let size : Int := ((hour * 60 + minute) * 60 : Nat)
    if sign.isNegative then -size else size
  | _ => 0

theorem seconds_bounds (z : WrittenZone) : -86400 < z.seconds ∧ z.seconds < 86400 := by
  cases z with
  | none => decide
  | universal => exact (by decide : (-86400 : Int) < 0 ∧ (0 : Int) < 86400)
  | signed sign hour colon minute =>
    have hhour := hour.isLt
    have hminute := minute.isLt
    unfold seconds
    dsimp only
    split <;> omega

/-- The offset, where one is written. -/
def offset? : WrittenZone → Option Offset
  | none => .none
  | z => some ⟨z.seconds, z.seconds_bounds⟩

/-- Without an offset the clock is that of universal time. -/
theorem offset?_getD (z : WrittenZone) : (z.offset?.getD .utc).seconds = z.seconds := by
  cases z <;> rfl

end WrittenZone

/-- A date, a time of day and an offset. -/
structure WrittenStamp where
  date : Date
  time : WrittenTime
  zone : WrittenZone

namespace WrittenStamp

/-- The characters after the date. -/
def charsAfterDate (w : WrittenStamp) (separator : Char) : List Char := separator :: (w.time.chars ++ w.zone.chars)

/-- The text of a stamp, with a separator between the date and the time. -/
def text (w : WrittenStamp) (separator : Char) : String := w.date.text ++ String.ofList (w.charsAfterDate separator)

/-- What is read of a written stamp. -/
def stamp (w : WrittenStamp) : Stamp := ⟨⟨w.date, w.time.timeOfDay⟩, w.zone.offset?⟩

end WrittenStamp

/-! ## Reading -/

theorem length_le_utf8Length (cs : List Char) : cs.length ≤ utf8Length cs := by
  rw [utf8Length, String.utf8ByteSize_ofList]
  induction cs with
  | nil => exact Nat.zero_le _
  | cons c cs ih =>
    have hpos := c.utf8Size_pos
    rw [String.utf8Len_cons, List.length_cons]
    omega

namespace Reading

variable {fault : CalendarFault} {cs rest : List Char}

/-- What was read in two steps was read in each. -/
theorem ok_of_bind {α β : Type} {x : Except CalendarFault α} {f : α → Except CalendarFault β} {b : β}
    (h : x >>= f = .ok b) : ∃ a, x = .ok a ∧ f a = .ok b := by
  cases x with
  | error => cases h
  | ok a => exact ⟨a, rfl, h⟩

@[simp] theorem twoDigits_padded (n : Nat) (rest : List Char) :
    twoDigits fault (paddedDigits 2 n ++ rest) = .ok (n % 100, rest) := by
  have hdigits : n / 10 % 10 * 10 + n % 10 = n % 100 := by omega
  simp [twoDigits, paddedDigits, hdigits]

/-- Two digits that are read are those of a number below a hundred. -/
theorem eq_padded_of_twoDigits {n : Nat} (h : twoDigits fault cs = .ok (n, rest)) :
    n < 100 ∧ cs = paddedDigits 2 n ++ rest := by
  unfold twoDigits at h
  split at h
  · split at h
    · rename_i a b tail x y hx hy
      obtain ⟨hx, rfl⟩ := digitChar_of_value hx
      obtain ⟨hy, rfl⟩ := digitChar_of_value hy
      cases h
      have htens : digitChar ((x * 10 + y) / 10) = digitChar x := congrArg digitChar (by omega)
      have hunits : digitChar (x * 10 + y) = digitChar y := by
        rw [digitChar, Nat.mul_add_mod_self_right]
        rfl
      refine ⟨by omega, ?_⟩
      simp [paddedDigits, htens, hunits]
    · cases h
  · cases h

@[simp] theorem mark_cons (c : Char) (rest : List Char) : mark c fault (c :: rest) = .ok rest := if_pos rfl

/-- A date is read where it is written. -/
theorem day_text (d : Date) (rest : List Char) : day (d.text.toList ++ rest) = .ok (⟨d.year, d.month, d.day⟩, rest) := by
  have hcentury : paddedDigits 4 d.year = paddedDigits 2 (d.year / 100) ++ paddedDigits 2 d.year := by
    simp [paddedDigits, Nat.div_div_eq_div_mul]
  have hlong : ¬utf8Length (d.text.toList ++ rest) < 10 := by
    refine Nat.not_lt.2 (Nat.le_trans ?_ (length_le_utf8Length _))
    simp [Date.text]
    omega
  have hvalid := d.valid
  have hyear : d.year / 100 % 100 * 100 + d.year % 100 = d.year := by
    have := hvalid.year_le
    omega
  have hmonth : d.month % 100 = d.month := by
    have := hvalid.month_le
    omega
  have hday : d.day % 100 = d.day := by
    have := hvalid.day_le
    have := Date.monthLength_le d.year d.month
    omega
  have hmonths : ¬(d.month < 1 ∨ 12 < d.month) := by
    have := hvalid.month_pos
    have := hvalid.month_le
    omega
  have hdays : ¬(d.day < 1 ∨ monthLength d.year d.month < d.day) := by
    have := hvalid.day_pos
    have := hvalid.day_le
    omega
  rw [day, if_neg hlong]
  simp only [Date.text, String.toList_ofList, hcentury, List.append_assoc, List.cons_append, twoDigits_padded, mark_cons,
    bind, Except.bind, hyear, hmonth, hday, if_neg hmonths, if_neg hdays]
  rfl

/-- The date of a day that is in the calendar. -/
theorem day_date (d : Date) (midnight : Bool) : Day.date ⟨d.year, d.month, d.day⟩ midnight = .ok d := by
  rw [Day.date, Date.of?, dif_pos d.valid]

/-- The microseconds of a fraction are what is left of it when all beyond the sixth digit is cut off. -/
theorem fractionMicros_bounds (ds : List Char) :
    fractionMicros ds * 10 ^ ds.length ≤ ofDigits ds * 1000000 ∧
      ofDigits ds * 1000000 < (fractionMicros ds + 1) * 10 ^ ds.length := by
  -- with six zeros after it a fraction has six digits to keep; the digits cut off are as many as it had before
  have hwhole : ofDigits ds * 10 ^ 6 = ofDigits ((ds ++ List.replicate 6 '0').take 6 ++ (ds ++ List.replicate 6 '0').drop 6) := by
    rw [List.take_append_drop, ofDigits_zeros]
  have hcut : ((ds ++ List.replicate 6 '0').drop 6).length = ds.length := by simp
  have hbelow := ofDigits_lt ((ds ++ List.replicate 6 '0').drop 6)
  rw [ofDigits_append, hcut] at hwhole
  rw [hcut] at hbelow
  have hmillion : (10 ^ 6 : Nat) = 1000000 := by decide
  rw [hmillion] at hwhole
  rw [fractionMicros, hwhole, Nat.add_mul]
  omega

/-- A fraction is less than a second. -/
theorem fractionMicros_lt (ds : List Char) : fractionMicros ds < 1000000 := by
  have hlength : ((ds ++ List.replicate 6 '0').take 6).length = 6 := by simp
  have hlt := ofDigits_lt ((ds ++ List.replicate 6 '0').take 6)
  rw [hlength] at hlt
  exact hlt

/-- A character that does not go on with a time of day. -/
def endsTime (c : Char) : Bool := c != ':' && c != '.' && c != ',' && !isDigit c

/-- Seconds are read up to what does not go on with them. -/
theorem seconds_written (s : WrittenSeconds) (h : ∀ c ∈ cs.head?, endsTime c = true) :
    seconds (s.chars ++ cs) = .ok ((s.second, fractionMicros s.fraction), cs) := by
  have hnext : ∀ c ∈ cs.head?, c ≠ ':' ∧ c ≠ '.' ∧ c ≠ ',' ∧ isDigit c = false := by
    simpa [endsTime, and_assoc] using h
  cases s with
  | none =>
    unfold seconds
    split
    · exact absurd rfl (hnext ':' (by simp_all [WrittenSeconds.chars])).1
    · rfl
  | whole second =>
    have hmod : (second : Nat) % 100 = second := by omega
    have hsmall : ¬59 < (second : Nat) := by omega
    simp only [WrittenSeconds.chars, List.cons_append, seconds, twoDigits_padded, bind, Except.bind, hmod, if_neg hsmall]
    cases cs with
    | nil => rfl
    | cons c cs =>
      obtain ⟨-, hpoint, hcomma, -⟩ := hnext c rfl
      have hmark : ¬(c = '.' ∨ c = ',') := by simp [hpoint, hcomma]
      simp only [if_neg hmark]
      rfl
  | fractional second f =>
    have hmod : (second : Nat) % 100 = second := by omega
    have hsmall : ¬59 < (second : Nat) := by omega
    have hmark : (if f.comma then ',' else '.') = '.' ∨ (if f.comma then ',' else '.') = ',' := by
      cases f.comma <;> decide
    have hspan : spanDigits (f.digits ++ cs) = (f.digits, cs) :=
      spanDigits_append f.isDigit_of_mem fun c hc => (hnext c hc).2.2.2
    have hdigits : f.digits.isEmpty = false := List.isEmpty_eq_false_iff.2 f.digits_ne_nil
    simp only [WrittenSeconds.chars, WrittenFraction.chars, List.cons_append, List.append_assoc, seconds, twoDigits_padded,
      bind, Except.bind, hmod, if_neg hsmall, if_pos hmark, hspan, hdigits]
    rfl

/-- A time of day is read up to what does not go on with it. -/
theorem time_written (t : WrittenTime) (h : ∀ c ∈ cs.head?, endsTime c = true) :
    time (t.chars ++ cs) = .ok (t.timeOfDay, cs) := by
  have hlong : ¬utf8Length (t.chars ++ cs) < 5 := by
    refine Nat.not_lt.2 (Nat.le_trans ?_ (length_le_utf8Length _))
    simp [WrittenTime.chars]
    omega
  have hhour : (t.hour : Nat) % 100 = t.hour := by omega
  have hminute : (t.minute : Nat) % 100 = t.minute := by omega
  have hhours : ¬23 < (t.hour : Nat) := by omega
  have hminutes : ¬59 < (t.minute : Nat) := by omega
  rw [time, if_neg hlong]
  simp only [WrittenTime.chars, List.append_assoc, List.cons_append, twoDigits_padded, mark_cons, bind, Except.bind, hhour,
    hminute, if_neg hhours, if_neg hminutes, seconds_written t.seconds h]
  rfl

/-- No offset goes on with a time of day. -/
theorem endsTime_zone (z : WrittenZone) : ∀ c ∈ z.chars.head?, endsTime c = true := by
  rcases z with _ | small | ⟨sign, hour, colon, minute⟩
  · exact nofun
  · cases small <;> simp [WrittenZone.chars] <;> decide
  · cases sign <;> simp [WrittenZone.chars, ZoneSign.char] <;> decide

theorem zoneSign?_char (s : ZoneSign) : zoneSign? s.char = some s.isNegative := by
  cases s <;> decide

/-- The sign that a character stands for. -/
theorem sign_of_zoneSign? {c : Char} {negative : Bool} (h : zoneSign? c = some negative) :
    ∃ s : ZoneSign, s.char = c ∧ s.isNegative = negative := by
  unfold zoneSign? at h
  split at h
  · cases h
    exact ⟨.plus, Eq.symm ‹c = '+'›, rfl⟩
  · split at h
    · cases h
      rcases ‹c = '-' ∨ c = '−'› with rfl | rfl
      · exact ⟨.hyphen, rfl, rfl⟩
      · exact ⟨.minus, rfl, rfl⟩
    · cases h

/-- What is left of an offset after its hour, without the colon. -/
def dropColon : List Char → List Char
  | ':' :: rest => rest
  | cs => cs

theorem dropColon_padded (colon : Bool) (n : Nat) :
    dropColon ((if colon then [':'] else []) ++ paddedDigits 2 n) = paddedDigits 2 n := by
  cases colon with
  | true => rfl
  | false =>
    change dropColon (paddedDigits 2 n) = _
    unfold dropColon
    split
    · rename_i rest hcs
      have hmem : ':' ∈ paddedDigits 2 n := hcs ▸ List.mem_cons_self
      exact absurd (isDigit_of_mem_paddedDigits hmem) (by decide)
    · rfl

/-- What the dropped colon leaves is there with a colon in front or without one. -/
theorem exists_colon (cs : List Char) : ∃ colon : Bool, cs = (if colon then [':'] else []) ++ dropColon cs := by
  unfold dropColon
  split
  · exact ⟨true, rfl⟩
  · exact ⟨false, rfl⟩

/-- What a sign with hours and minutes gives. -/
theorem zone_signed (sign : ZoneSign) (cs : List Char) : zone (sign.char :: cs) = (do
    let (hour, cs) ← twoDigits .zoneHourDigit cs
    let (minute, cs) ← twoDigits .zoneMinuteDigit (dropColon cs)
    if 59 < minute then throw .zoneMinuteRange
    let size : Int := ((hour * 60 + minute) * 60 : Nat)
    match Offset.of? (if sign.isNegative then -size else size) with
    | some offset => return (some offset, cs)
    | none => throw .zoneRange) := by
  have hletter : ¬(sign.char = 'Z' ∨ sign.char = 'z') := by cases sign <;> decide
  rw [zone, if_neg hletter, zoneSign?_char]
  rfl

theorem offset_of_of? {n : Int} {o : Offset} (h : Offset.of? n = some o) :
    ∃ hbounds : -86400 < n ∧ n < 86400, o = ⟨n, hbounds⟩ := by
  unfold Offset.of? at h
  split at h
  · cases h
    exact ⟨‹_›, rfl⟩
  · cases h

/-- An offset is read to its end. -/
theorem zone_written (z : WrittenZone) : zone z.chars = .ok (z.offset?, []) := by
  rcases z with _ | small | ⟨sign, hour, colon, minute⟩
  · rfl
  · cases small <;> rfl
  · have hhour : (hour : Nat) % 100 = hour := by omega
    have hminute : (minute : Nat) % 100 = minute := by omega
    have hminutes : ¬59 < (minute : Nat) := by omega
    have hread : twoDigits .zoneMinuteDigit (paddedDigits 2 minute ++ []) = .ok ((minute : Nat) % 100, []) :=
      twoDigits_padded minute []
    have hseconds := (WrittenZone.signed sign hour colon minute).seconds_bounds
    have hoffset : Offset.of? (if sign.isNegative then -(((hour * 60 + minute) * 60 : Nat) : Int)
        else (((hour * 60 + minute) * 60 : Nat) : Int)) = some ⟨_, hseconds⟩ := dif_pos hseconds
    rw [List.append_nil] at hread
    simp only [WrittenZone.chars, List.cons_append, List.append_assoc, zone_signed, twoDigits_padded, dropColon_padded, hread,
      bind, Except.bind, hhour, hminute, if_neg hminutes, hoffset]
    rfl

/-- Offsets in one of these spellings are read to their end, and no others are. -/
theorem zone_eq_iff {o : Option Offset} : zone cs = .ok (o, []) ↔ ∃ z : WrittenZone, z.chars = cs ∧ z.offset? = o := by
  constructor
  · intro h
    rcases cs with _ | ⟨c, cs⟩
    · cases h
      exact ⟨.none, rfl, rfl⟩
    by_cases hletter : c = 'Z' ∨ c = 'z'
    · rw [zone, if_pos hletter] at h
      cases h
      rcases hletter with rfl | rfl
      · exact ⟨.universal false, rfl, rfl⟩
      · exact ⟨.universal true, rfl, rfl⟩
    cases hsign : zoneSign? c with
    | none => simp [zone, hletter, hsign] at h
    | some negative =>
      obtain ⟨sign, rfl, rfl⟩ := sign_of_zoneSign? hsign
      rw [zone_signed] at h
      obtain ⟨⟨hour, afterHour⟩, hhour, hrest⟩ := ok_of_bind h
      obtain ⟨⟨minute, afterMinute⟩, hminute, hmade⟩ := ok_of_bind hrest
      obtain ⟨-, hcs⟩ := eq_padded_of_twoDigits hhour
      obtain ⟨-, hpadded⟩ := eq_padded_of_twoDigits hminute
      obtain ⟨colon, hcolon⟩ := exists_colon afterHour
      dsimp only at hmade
      split at hmade
      · cases hmade
      have hminutes : minute < 60 := by omega
      generalize hoffset : Offset.of? _ = offset? at hmade
      cases offset? with
      | none => cases hmade
      | some offset =>
        cases hmade
        obtain ⟨hbounds, rfl⟩ := offset_of_of? hoffset
        -- the reader bounds no hour, but an offset of a day or more is none
        have hday : hour < 24 := by split at hbounds <;> omega
        refine ⟨.signed sign ⟨hour, hday⟩ colon ⟨minute, hminutes⟩, ?_, rfl⟩
        rw [hcs, hcolon, hpadded, List.append_nil, ← List.append_assoc]
        rfl
  · rintro ⟨z, rfl, rfl⟩
    exact zone_written z

/-- A written stamp is read, whatever separator it has. -/
theorem wholeStamp_written (w : WrittenStamp) {separator : Char} (h : isSeparator separator = true) :
    wholeStamp (w.text separator).toList = .ok w.stamp := by
  have htime := time_written w.time (endsTime_zone w.zone)
  simp only [wholeStamp, WrittenStamp.text, WrittenStamp.charsAfterDate, String.toList_append, String.toList_ofList, day_text,
    bind, Except.bind, h, if_true, pure, Except.pure, htime, zone_written, day_date]
  rfl

end Reading

/-- Digits with something other than a point after them are no timestamp. -/
theorem Timestamp.ofChars?_eq_none {d c : Char} {ds rest : List Char} (hds : ∀ x ∈ d :: ds, isDigit x = true)
    (hdigit : isDigit c = false) (hpoint : c ≠ '.') : ofChars? (d :: ds ++ c :: rest) = none := by
  have hfirst : isDigit d = true := hds d List.mem_cons_self
  have hsign : Decimal.splitSign (d :: ds ++ c :: rest) = (false, d :: ds ++ c :: rest) := by
    unfold Decimal.splitSign
    split
    · injection ‹_› with hd
      rw [hd] at hfirst
      exact absurd hfirst (by decide)
    · injection ‹_› with hd
      rw [hd] at hfirst
      exact absurd hfirst (by decide)
    · rfl
  have hspan : spanDigits (d :: ds ++ c :: rest) = (d :: ds, c :: rest) := by
    refine spanDigits_append hds fun x hx => ?_
    obtain rfl := Option.mem_some_iff.1 hx
    exact hdigit
  simp only [ofChars?, hsign, hspan, Bool.false_eq_true, if_false]
  split
  · rfl
  · split
    · cases ‹_›
    · injection ‹_› with hc
      exact absurd hc hpoint
    · rfl

end RaceAlbum
