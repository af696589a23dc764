import RaceAlbum.Calendar.Stamp
import RaceAlbum.Text.Blank

/-!
# The text of a capture time

A camera writes the moment of a picture as `YYYY:MM:DD HH:MM:SS`. The year has four digits, the other fields one or two,
and blanks stand between the date and the time.
-/

namespace RaceAlbum.CaptureTime

/-- What surrounds a capture time and does not belong to it. -/
def isFiller (c : Char) : Bool := c == '\x00' || c == ' '

/-- Reads a number of one or two digits up to a limit, all there is. -/
def short? (limit : Nat) (ds : List Char) : Option Nat :=
  if !ds.isEmpty && ds.length ≤ 2 && ds.all isDigit && ofDigits ds ≤ limit then some (ofDigits ds) else none

/-- Splits a text at its first colon. -/
def splitColon? (cs : List Char) : Option (List Char × List Char) :=
  match cs.span (· != ':') with
  | (front, ':' :: rest) => some (front, rest)
  | _ => none

/-- Reads the day of the month in front of the blanks: a space may stand in the place of its first digit. -/
def day? : List Char → Option (Nat × List Char)
  | ' ' :: c :: rest =>
    if isDigit c then (short? 9 [c]).map fun d => (d, rest) else none
  | cs =>
    let (ds, rest) := spanDigits cs
    (short? 31 ds).map fun d => (d, rest)

/-- Drops the blanks between the date and the time; there is at least one. -/
def blanks? (cs : List Char) : Option (List Char) :=
  let (blanks, rest) := cs.span isBlankOrSeparator
  if blanks.isEmpty then none else some rest

/-- Reads the year, which has four digits. -/
def year? (ds : List Char) : Option Nat := if ds.length = 4 && ds.all isDigit then some (ofDigits ds) else none

/-- Reads a capture time without anything around it. -/
def whole? (cs : List Char) : Option Moment := do
  let (year, cs) ← splitColon? cs
  let year ← year? year
  let (month, cs) ← splitColon? cs
  let month ← short? 12 month
  let (day, cs) ← day? cs
  let cs ← blanks? cs
  let (hour, cs) ← splitColon? cs
  let hour ← short? 23 hour
  let (minute, second) ← splitColon? cs
  let minute ← short? 59 minute
  let second ← short? 59 second
  let date ← Date.of? year month day
  return ⟨date, .ofParts hour minute second 0⟩

/-- Reads a capture time. -/
def read? (cs : List Char) : Option Moment := whole? (trim isFiller cs)

/-- A moment as a camera writes it, to the second. -/
def write (m : Moment) : List Char :=
  paddedDigits 4 m.date.year ++ ':' :: paddedDigits 2 m.date.month ++ ':' :: paddedDigits 2 m.date.day ++ ' ' ::
    paddedDigits 2 m.time.hour ++ ':' :: paddedDigits 2 m.time.minute ++ ':' :: paddedDigits 2 m.time.second

end RaceAlbum.CaptureTime
