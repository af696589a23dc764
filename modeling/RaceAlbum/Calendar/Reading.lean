import RaceAlbum.Bytes
import RaceAlbum.Calendar.Stamp
import RaceAlbum.Number.Decimal

/-!
# Dates and stamps read from text and from numbers

A date is written with ten characters. A stamp is a date, a separator and a time of day with an optional fraction and
an optional offset. A text that is a number is a timestamp: seconds since 1970, or milliseconds where the number is
large. Every refusal names its cause.
-/

namespace RaceAlbum

/-- Why a text or a number names no day or no moment. Of the year zero it is kept whether it is the start of a day. -/
inductive CalendarFault where
  | tooShort
  | trailing
  | yearDigit
  | monthDigit
  | dayDigit
  | dateSeparator
  | monthRange
  | dayRange
  | stampSeparator
  | hourDigit
  | minuteDigit
  | secondDigit
  | timeSeparator
  | hourRange
  | minuteRange
  | secondRange
  | fractionMissing
  | zoneSign
  | zoneHourDigit
  | zoneMinuteDigit
  | zoneMinuteRange
  | zoneRange
  | yearZero (midnight : Bool)
  | timestampTooLarge
  | timestampTooSmall
  | timestampNotANumber
deriving DecidableEq

namespace CalendarFault

/-- The cause in words. -/
def text : CalendarFault → String
  | tooShort => "input is too short"
  | trailing => "unexpected extra characters at the end of the input"
  | yearDigit => "invalid character in year"
  | monthDigit => "invalid character in month"
  | dayDigit => "invalid character in day"
  | dateSeparator => "invalid date separator, expected `-`"
  | monthRange => "month value is outside expected range of 1-12"
  | dayRange => "day value is outside expected range"
  | stampSeparator => "invalid datetime separator, expected `T`, `t`, `_` or space"
  | hourDigit => "invalid character in hour"
  | minuteDigit => "invalid character in minute"
  | secondDigit => "invalid character in second"
  | timeSeparator => "invalid time separator, expected `:`"
  | hourRange => "hour value is outside expected range of 0-23"
  | minuteRange => "minute value is outside expected range of 0-59"
  | secondRange => "second value is outside expected range of 0-59"
  | fractionMissing => "second fraction digits missing after `.`"
  | zoneSign => "invalid timezone sign"
  | zoneHourDigit => "invalid timezone hour"
  | zoneMinuteDigit => "invalid timezone minute"
  | zoneMinuteRange => "timezone minute value is outside expected range of 0-59"
  | zoneRange => "timezone offset must be less than 24 hours"
  | yearZero _ => "year 0 is out of range"
  | timestampTooLarge => "dates after 9999 are not supported as unix timestamps"
  | timestampTooSmall => "dates before 0000 are not supported as unix timestamps"
  | timestampNotANumber => "NaN values not permitted"

end CalendarFault

namespace Reading

/-- Reads two digits in front of a text. -/
def twoDigits (fault : CalendarFault) : List Char → Except CalendarFault (Nat × List Char)
  | a :: b :: rest =>
    match digitValue? a, digitValue? b with
    | some x, some y => .ok (x * 10 + y, rest)
    | _, _ => .error fault
  | _ => .error fault

/-- Reads one given character in front of a text. -/
def mark (c : Char) (fault : CalendarFault) : List Char → Except CalendarFault (List Char)
  | d :: rest => if d = c then .ok rest else .error fault
  | [] => .error fault

/-- A day as it is written: the year zero is among them. -/
structure Day where
  year : Nat
  month : Nat
  day : Nat

/-- Reads the ten characters of a day in front of a text. -/
def day (cs : List Char) : Except CalendarFault (Day × List Char) := do
  if utf8Length cs < 10 then throw .tooShort
  let (century, cs) ← twoDigits .yearDigit cs
  let (year, cs) ← twoDigits .yearDigit cs
  let year := century * 100 + year
  let cs ← mark '-' .dateSeparator cs
  let (month, cs) ← twoDigits .monthDigit cs
  let cs ← mark '-' .dateSeparator cs
  let (day, cs) ← twoDigits .dayDigit cs
  if month < 1 ∨ 12 < month then throw .monthRange
  if day < 1 ∨ monthLength year month < day then throw .dayRange
  return (⟨year, month, day⟩, cs)

/-- The date of a day that is written, unless it is of the year zero. -/
def Day.date (d : Day) (midnight : Bool) : Except CalendarFault Date :=
  match Date.of? d.year d.month d.day with
  | some date => .ok date
  | none => .error (.yearZero midnight)

/-- The value of the first six digits of a fraction of a second, in microseconds. -/
def fractionMicros (ds : List Char) : Nat := ofDigits ((ds ++ List.replicate 6 '0').take 6)

/-- Reads the seconds and their fraction, where they are written. -/
def seconds : List Char → Except CalendarFault ((Nat × Nat) × List Char)
  | ':' :: cs => do
    let (second, cs) ← twoDigits .secondDigit cs
    if 59 < second then throw .secondRange
    match cs with
    | c :: rest =>
      if c = '.' ∨ c = ',' then
        let (ds, rest) := spanDigits rest
        if ds.isEmpty then throw .fractionMissing
        return ((second, fractionMicros ds), rest)
      else return ((second, 0), cs)
    | [] => return ((second, 0), [])
  | cs => .ok ((0, 0), cs)

/-- Reads a time of day. -/
def time (cs : List Char) : Except CalendarFault (TimeOfDay × List Char) := do
  if utf8Length cs < 5 then throw .tooShort
  let (hour, cs) ← twoDigits .hourDigit cs
  let cs ← mark ':' .timeSeparator cs
  let (minute, cs) ← twoDigits .minuteDigit cs
  if 23 < hour then throw .hourRange
  if 59 < minute then throw .minuteRange
  let ((second, micro), cs) ← seconds cs
  return (TimeOfDay.ofParts hour minute second micro, cs)

/-- Whether a character is the sign of an offset, and whether it is a minus. -/
def zoneSign? (c : Char) : Option Bool :=
  if c = '+' then some false else if c = '-' ∨ c = '−' then some true else none

/-- Reads an offset, where one is written. -/
def zone : List Char → Except CalendarFault (Option Offset × List Char)
  | [] => .ok (none, [])
  | c :: cs =>
    if c = 'Z' ∨ c = 'z' then .ok (some .utc, cs)
    else match zoneSign? c with
      | none => .error .zoneSign
      | some negative => do
        let (hour, cs) ← twoDigits .zoneHourDigit cs
        let cs := match cs with
          | ':' :: rest => rest
          | cs => cs
        let (minute, cs) ← twoDigits .zoneMinuteDigit cs
        if 59 < minute then throw .zoneMinuteRange
        let size : Int := ((hour * 60 + minute) * 60 : Nat)
        match Offset.of? (if negative then -size else size) with
        | some offset => return (some offset, cs)
        | none => throw .zoneRange

/-- The characters that may stand between the date and the time. -/
def isSeparator (c : Char) : Bool := c == 'T' || c == 't' || c == ' ' || c == '_'

/-- Reads a whole text as a day. -/
def wholeDay (cs : List Char) : Except CalendarFault Date := do
  let (d, rest) ← day cs
  if !rest.isEmpty then throw .trailing
  d.date true

/-- Reads a whole text as a stamp. -/
def wholeStamp (cs : List Char) : Except CalendarFault Stamp := do
  let (d, cs) ← day cs
  let cs ← match cs with
    | c :: rest => if isSeparator c then pure rest else throw .stampSeparator
    | [] => throw .stampSeparator
  let (t, cs) ← time cs
  let (offset, cs) ← zone cs
  if !cs.isEmpty then throw .trailing
  let date ← d.date (t.micros == 0)
  return ⟨⟨date, t⟩, offset⟩

end Reading

/-- The start of the year 1970, in microseconds since the start of the calendar. -/
def epochMicros : Int := 62135596800000000

/-- The greatest timestamp that counts seconds; beyond it, in either direction, a timestamp counts milliseconds. -/
def timestampSecondsMax : Int := 20000000000

/-- The moment of a timestamp of a number of microseconds since 1970. The year zero is told apart from what lies
before it. -/
def Stamp.ofEpochMicros (micros : Int) : Except CalendarFault Stamp :=
  if 253402300800000000 ≤ micros then .error .timestampTooLarge
  else if micros < -62167219200000000 then .error .timestampTooSmall
  else match Moment.ofMicros? (micros + epochMicros) with
    | some m => .ok (.ofUtc m)
    | none => .error (.yearZero (micros % (dayMicros : Int) == 0))

/-- The moment of a whole timestamp, and a number of microseconds later. -/
def Stamp.ofTimestampParts (n : Int) (micros : Nat) : Except CalendarFault Stamp :=
  if n.natAbs ≤ timestampSecondsMax.toNat then ofEpochMicros (n * 1000000 + micros)
  else ofEpochMicros (n * 1000 + micros)

/-- The moment of a whole timestamp. -/
def Stamp.ofTimestamp (n : Int) : Except CalendarFault Stamp := ofTimestampParts n 0

/-- The microseconds of a fraction of a second that is given in units of `2 ^ -1074`. The fraction, its product with the
microseconds of a second and the integer nearest to that are each rounded, a half of the last going up. -/
def fractionalMicros (units : Nat) : Nat :=
  let fraction := Binary64.ofRatio false units (twoPow 1074)
  let micros := Binary64.ofRatio false (fraction.magnitude * 1000000) (twoPow 1074)
  (2 * micros.magnitude + twoPow 1074) / (2 * twoPow 1074)

/-- The moment of a timestamp with a fraction that is a number: that of the greatest integer not above it, and as many
microseconds later as the fraction of its magnitude has. -/
def Stamp.ofNumericTimestamp (x : Binary64) : Except CalendarFault Stamp := match x with
  | .nan => .error .timestampNotANumber
  | .infinity negative => .error (if negative then .timestampTooSmall else .timestampTooLarge)
  | .finite .. => ofTimestampParts x.floor (fractionalMicros (x.magnitude % twoPow 1074))

/-- The moment of a timestamp with a fraction that is written as text: milliseconds are brought into seconds first. -/
def Stamp.ofWrittenTimestamp (x : Binary64) : Except CalendarFault Stamp := match x with
  | .nan => .error .timestampNotANumber
  | .infinity negative => .error (if negative then .timestampTooSmall else .timestampTooLarge)
  | .finite negative .. =>
    let seconds := if x.magnitude ≤ timestampSecondsMax.toNat * twoPow 1074 then x
      else Binary64.ofRatio negative x.magnitude (1000 * twoPow 1074)
    ofTimestampParts seconds.floor (fractionalMicros (seconds.units - seconds.floor * (twoPow 1074 : Int)).toNat)

/-- A text that is a timestamp. -/
inductive Timestamp where
  | whole (n : Int)
  | fractional (x : Binary64)

namespace Timestamp

/-- Reads a text as a timestamp: an integer of 64 bits, with a sign or none, or such a number with a point, which may
have digits on either side of it and a power of ten after them. -/
def ofChars? (cs : List Char) : Option Timestamp :=
  let (negative, unsigned) := Decimal.splitSign cs
  let (ds, rest) := spanDigits unsigned
  let n : Int := if negative then -(ofDigits ds : Int) else ofDigits ds
  if !isInt64 n then none
  else match rest with
    | [] => if ds.isEmpty then none else some (.whole n)
    | '.' :: _ => (Decimal.ofChars? cs).map fun d => .fractional d.toBinary64
    | _ => none

/-- The moment of a timestamp. -/
def stamp : Timestamp → Except CalendarFault Stamp
  | whole n => Stamp.ofTimestamp n
  | fractional x => Stamp.ofWrittenTimestamp x

end Timestamp

/-- Reads a stamp from a text: a date and a time, or a timestamp. -/
def Stamp.ofText (s : String) : Except CalendarFault Stamp :=
  match Reading.wholeStamp s.toList with
  | .ok stamp => .ok stamp
  | .error (.yearZero midnight) => .error (.yearZero midnight)
  | .error fault =>
    match Timestamp.ofChars? s.toList with
    | some t => t.stamp
    | none => .error fault

/-- The start of a day, without an offset. -/
def Stamp.ofDate (d : Date) : Stamp := ⟨⟨d, .midnight⟩, none⟩

/-- Whether a stamp is at the start of its day. -/
def Stamp.isMidnight (s : Stamp) : Bool := s.wall.time.micros == 0

/-- What a text says about a day: it names one, it is a whole timestamp that is none, or it names none for a cause. -/
inductive DayReading where
  | day (d : Date)
  | notMidnight
  | refused (f : CalendarFault)

/-- Reads a day from a text: ten characters, or a whole timestamp at the start of a day. -/
def DayReading.ofText (s : String) : DayReading :=
  match Reading.wholeDay s.toList with
  | .ok d => .day d
  | .error (.yearZero midnight) => .refused (.yearZero midnight)
  | .error fault =>
    match Timestamp.ofChars? s.toList with
    | some (.whole n) =>
      match Stamp.ofTimestamp n with
      | .ok stamp => if stamp.isMidnight then .day stamp.wall.date else .notMidnight
      | .error f => .refused f
    | _ => .refused fault

end RaceAlbum
