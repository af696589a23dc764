import RaceAlbum.Number.Digits
import RaceAlbum.Text.Blank

/-!
# Numerals of all scripts

Many scripts have decimal digits of their own, ten in a row from the zero on. A number may be written with any of
them, with blanks around it and with single underscores between its digits; `plainNumeral?` gives the same number in
ASCII.
-/

namespace RaceAlbum

/-- The zeros of all runs of ten decimal digits of Unicode 14. -/
def digitZeros : List Nat :=
  [48, 1632, 1776, 1984, 2406, 2534, 2662, 2790, 2918, 3046, 3174, 3302, 3430, 3558, 3664, 3792, 3872, 4160, 4240,
   6112, 6160, 6470, 6608, 6784, 6800, 6992, 7088, 7232, 7248, 42528, 43216, 43264, 43472, 43504, 43600, 44016, 65296,
   66720, 68912, 69734, 69872, 69942, 70096, 70384, 70736, 70864, 71248, 71360, 71472, 71904, 72016, 72784, 73040,
   73120, 92768, 92864, 93008, 120782, 120792, 120802, 120812, 120822, 123200, 123632, 125264, 130032]

/-- The ASCII digit of the same value, for a digit of any script; another character stays. -/
def plainDigit (c : Char) : Char :=
  match digitZeros.find? fun first => first ≤ c.toNat && c.toNat < first + 10 with
  | some first => digitChar (c.toNat - first)
  | none => c

/-- Drops the underscores of a number, each of which stands between two digits; `last` is the character before. -/
def dropJoints? (last : Option Char) : List Char → Option (List Char)
  | [] => some []
  | '_' :: c :: rest =>
    if last.any isDigit && isDigit c then (dropJoints? (some c) rest).map (c :: ·) else none
  | ['_'] => none
  | c :: rest => (dropJoints? (some c) rest).map (c :: ·)

/-- A number in ASCII, without blanks around it and without underscores. -/
def plainNumeral? (s : String) : Option (List Char) :=
  dropJoints? none ((trim isBlank s.toList).map plainDigit)

end RaceAlbum
