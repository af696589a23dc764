import RaceAlbum.Number.Decimal

/-!
# Decimals with infinities

A column may hold a decimal with the places it was written with, an infinity, or a value that is no number. The last
comes quiet or signalling, and may carry digits that tell where it came from. The text of a decimal keeps its places:
`1E+3` and `1000` are two texts.
-/

namespace RaceAlbum

/-- A decimal, an infinity or a value that is no number, with the digits that it carries (zero for none). -/
inductive ExtendedDecimal where
  | finite (d : Decimal)
  | infinity (negative : Bool)
  | nan (negative signaling : Bool) (payload : Nat)
deriving DecidableEq

/-- How far below the point the first digit may stand in a decimal without a power of ten. -/
def Decimal.plainPower : Int := -6

/-- A decimal with all its digits: with a point among them where that needs few zeros, else with a power of ten. -/
def Decimal.text (d : Decimal) : String :=
  let ds := natDigits d.digits
  let power := ds.length + d.exponent
  let plain := d.exponent ≤ 0 && plainPower < power
  let point := if plain then power else 1
  let body :=
    if point ≤ 0 then '0' :: '.' :: List.replicate (-point).toNat '0' ++ ds
    else if ds.length ≤ point.toNat then ds ++ List.replicate (point.toNat - ds.length) '0'
    else ds.take point.toNat ++ '.' :: ds.drop point.toNat
  let tail := if power = point then [] else
    'E' :: (if power < point then '-' else '+') :: natDigits (power - point).natAbs
  String.ofList ((if d.negative then ['-'] else []) ++ body ++ tail)

namespace ExtendedDecimal

/-- A minus, or nothing. -/
def signText (negative : Bool) : String := if negative then "-" else ""

/-- The text of a decimal, or the name of what is none. -/
def text : ExtendedDecimal → String
  | finite d => d.text
  | infinity negative => signText negative ++ "Infinity"
  | nan negative signaling payload =>
    signText negative ++ (if signaling then "sNaN" else "NaN") ++ if payload = 0 then "" else natText payload

/-- Reads a value that is no number, after its sign: its name, and digits. -/
def nanOfWord? (negative : Bool) (word : List Char) : Option ExtendedDecimal :=
  let signaling := word.head? = some 's'
  let word := if signaling then word.drop 1 else word
  if word.take 3 == ['n', 'a', 'n'] && (word.drop 3).all isDigit then
    some (nan negative signaling (ofDigits (word.drop 3)))
  else none

/-- Reads a decimal, or the name of what is none in letters of any case. -/
def ofText? (s : String) : Option ExtendedDecimal :=
  match Decimal.ofText? s with
  | some d => some (finite d)
  | none =>
    let (negative, word) := Decimal.splitSign s.toList
    let word := word.map Char.toLower
    if word = "inf".toList ∨ word = "infinity".toList then some (infinity negative) else nanOfWord? negative word

/-- The nearest binary64 number; a signalling value has none. -/
def toBinary64? : ExtendedDecimal → Option Binary64
  | finite d => some d.toBinary64
  | infinity negative => some (.infinity negative)
  | nan _ signaling _ => if signaling then none else some .nan

/-- Whether the decimal is zero. -/
def isZero : ExtendedDecimal → Bool
  | finite d => d.digits == 0
  | _ => false

end ExtendedDecimal

end RaceAlbum
