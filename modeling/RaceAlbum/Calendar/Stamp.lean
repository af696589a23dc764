import RaceAlbum.Calendar.Date

/-!
# Moments and stamps

A moment is a date and a time of day. A stamp is a moment as a clock on the wall shows it, with the offset of that
clock from universal time where it is known. `Stamp.utc?` moves a stamp to universal time; it fails where that
leaves the calendar.
-/

namespace RaceAlbum

/-- The microseconds of a day. -/
def dayMicros : Nat := 86400000000

/-- A time of day to the microsecond. -/
structure TimeOfDay where
  micros : Nat
  lt : micros < dayMicros
deriving DecidableEq

namespace TimeOfDay

/-- The time that lies this many microseconds after midnight, days aside. -/
def ofMicros (n : Nat) : TimeOfDay := ⟨n % dayMicros, Nat.mod_lt _ (by decide)⟩

/-- The time of these parts. -/
def ofParts (hour minute second micro : Nat) : TimeOfDay :=
  ofMicros (((hour * 60 + minute) * 60 + second) * 1000000 + micro)

/-- The start of the day. -/
def midnight : TimeOfDay := ⟨0, by decide⟩

/-- The hour. -/
def hour (t : TimeOfDay) : Nat := t.micros / 3600000000

/-- The minute of the hour. -/
def minute (t : TimeOfDay) : Nat := t.micros / 60000000 % 60

/-- The second of the minute. -/
def second (t : TimeOfDay) : Nat := t.micros / 1000000 % 60

/-- The microsecond of the second. -/
def micro (t : TimeOfDay) : Nat := t.micros % 1000000

/-- The time as hours, minutes and seconds with colons between them, followed by six digits of microseconds unless
they are zero. -/
def text (t : TimeOfDay) : String :=
  String.ofList (paddedDigits 2 t.hour ++ ':' :: paddedDigits 2 t.minute ++ ':' :: paddedDigits 2 t.second ++
    (if t.micro = 0 then [] else '.' :: paddedDigits 6 t.micro))

end TimeOfDay

/-- A date and a time of day. -/
structure Moment where
  date : Date
  time : TimeOfDay
deriving DecidableEq

namespace Moment

/-- Moments are ordered as their keys. -/
def key (m : Moment) : Nat := m.date.key * dayMicros + m.time.micros

/-- Microseconds since the start of the calendar. -/
def micros (m : Moment) : Nat := m.date.dayNumber * dayMicros + m.time.micros

/-- The moment this many microseconds after the start of the calendar, if it is in the calendar. -/
def ofMicros? (n : Int) : Option Moment :=
  if n < 0 then none
  else (Date.ofDayNumber? (n.toNat / dayMicros)).map fun d => ⟨d, TimeOfDay.ofMicros n.toNat⟩

/-- The moment a number of microseconds later, or earlier where it is negative. -/
def shift? (m : Moment) (by_ : Int) : Option Moment := ofMicros? (m.micros + by_)

/-- The moment as date and time with a `T` between them. -/
def text (m : Moment) : String := m.date.text ++ "T" ++ m.time.text

end Moment

/-- The offset of a clock from universal time, below one day in either direction. -/
structure Offset where
  seconds : Int
  bounds : -86400 < seconds ∧ seconds < 86400
deriving DecidableEq

namespace Offset

/-- The offset of this many seconds, if it is below one day. -/
def of? (seconds : Int) : Option Offset :=
  if h : -86400 < seconds ∧ seconds < 86400 then some ⟨seconds, h⟩ else none

/-- Universal time itself. -/
def utc : Offset := ⟨0, by decide⟩

/-- The offset as a sign, hours and minutes, and seconds unless they are zero. -/
def text (o : Offset) : String :=
  let n := o.seconds.natAbs
  String.ofList ((if o.seconds < 0 then '-' else '+') :: paddedDigits 2 (n / 3600) ++
    ':' :: paddedDigits 2 (n / 60 % 60) ++ (if n % 60 = 0 then [] else ':' :: paddedDigits 2 (n % 60)))

end Offset

/-- A moment as a wall clock shows it, with the offset of that clock where it is known. -/
structure Stamp where
  wall : Moment
  offset : Option Offset
deriving DecidableEq

namespace Stamp

/-- A moment of universal time. -/
def ofUtc (m : Moment) : Stamp := ⟨m, some .utc⟩

/-- The moment of universal time that a wall clock of this offset shows: at most one day away. -/
def shiftToUtc? (m : Moment) (o : Offset) : Option Moment :=
  let micros : Int := (m.time.micros : Int) - o.seconds * 1000000
  if micros < 0 then m.date.previous?.map fun d => ⟨d, TimeOfDay.ofMicros (micros + dayMicros).toNat⟩
  else if micros < dayMicros then some ⟨m.date, TimeOfDay.ofMicros micros.toNat⟩
  else m.date.next?.map fun d => ⟨d, TimeOfDay.ofMicros (micros - dayMicros).toNat⟩

/-- The moment of universal time of a stamp, one without an offset being read as universal time. -/
def utc? (s : Stamp) : Option Moment := shiftToUtc? s.wall (s.offset.getD .utc)

/-- The stamp with universal time as its offset, unless it has one. -/
def assumeUtc (s : Stamp) : Stamp := ⟨s.wall, some (s.offset.getD .utc)⟩

/-- Whether nothing is known of the clock of a stamp. -/
def isBare (s : Stamp) : Bool := s.offset.isNone

/-- The stamp as text: the moment, and the offset where it is known. -/
def text (s : Stamp) : String := s.wall.text ++ (s.offset.map Offset.text).getD ""

/-- The stamp as text with the letter `Z` for universal time. -/
def wireText (s : Stamp) : String :=
  s.wall.text ++ match s.offset with
    | none => ""
    | some o => if o.seconds = 0 then "Z" else o.text

end Stamp

/-- The moment cut to milliseconds, as the text of a moment of universal time. -/
def Moment.milliText (m : Moment) : String :=
  m.date.text ++ "T" ++ String.ofList (paddedDigits 2 m.time.hour ++ ':' :: paddedDigits 2 m.time.minute ++
    ':' :: paddedDigits 2 m.time.second ++ '.' :: paddedDigits 3 (m.time.micro / 1000)) ++ "Z"

end RaceAlbum
