import RaceAlbum.Number.Binary64
import RaceAlbum.Number.Digits

/-!
# Decimal numbers

A decimal is a sign, a count and a power of ten. It is what the text of a number says before it is rounded to the
binary format, and what a fixed-point database column holds.
-/

namespace RaceAlbum

/-- The decimal `± digits * 10 ^ exponent`. -/
structure Decimal where
  negative : Bool
  digits : Nat
  exponent : Int
deriving DecidableEq

namespace Decimal

/-- Beyond this power of ten every decimal rounds to an infinity. -/
def hugePower : Int := 310

/-- Below this power of ten every decimal rounds to zero. -/
def tinyPower : Int := -330

/-- The binary64 number nearest to a decimal. -/
def toBinary64 (d : Decimal) : Binary64 :=
  let power := (natDigits d.digits).length + d.exponent
  if d.digits = 0 || power < tinyPower then Binary64.ofParts d.negative 0 0
  else if hugePower < power then .infinity d.negative
  else if 0 ≤ d.exponent then Binary64.ofRatio d.negative (d.digits * tenPow d.exponent.toNat) 1
  else Binary64.ofRatio d.negative d.digits (tenPow (-d.exponent).toNat)

/-- The integer towards zero. -/
def truncate (d : Decimal) : Int :=
  let n : Int := if 0 ≤ d.exponent then (d.digits * tenPow d.exponent.toNat : Nat)
    else (d.digits / tenPow (-d.exponent).toNat : Nat)
  if d.negative then -n else n

/-- A decimal and an integer as signed counts of the smaller of one and the last place of the decimal. -/
def countsWith (d : Decimal) (n : Int) : Int × Int :=
  let m : Int := if d.negative then -(d.digits : Int) else d.digits
  if 0 ≤ d.exponent then (m * tenPow d.exponent.toNat, n) else (m, n * tenPow (-d.exponent).toNat)

/-- Smaller than an integer. -/
def lessThan (d : Decimal) (n : Int) : Bool := decide ((d.countsWith n).1 < (d.countsWith n).2)

/-- Greater than an integer. -/
def isGreaterThan (d : Decimal) (n : Int) : Bool := decide ((d.countsWith n).2 < (d.countsWith n).1)

/-- Reads a sign in front: whether it is a minus, and the rest. -/
def splitSign : List Char → Bool × List Char
  | '-' :: cs => (true, cs)
  | '+' :: cs => (false, cs)
  | cs => (false, cs)

/-- Reads the power of ten after the digits: nothing, or the mark `e` with an optional sign and digits to the end. -/
def readPower? : List Char → Option Int
  | [] => some 0
  | c :: cs =>
    if c = 'e' ∨ c = 'E' then
      let (negative, ds) := splitSign cs
      if ds.isEmpty || !ds.all isDigit then none
      else some (if negative then -(ofDigits ds : Int) else ofDigits ds)
    else none

/-- Reads a number in decimal: an optional sign, digits with at most one point among or beside them, and an optional
power of ten. -/
def ofChars? (cs : List Char) : Option Decimal := do
  let (negative, cs) := splitSign cs
  let (whole, rest) := spanDigits cs
  let (fraction, rest) := match rest with
    | '.' :: rest => spanDigits rest
    | rest => ([], rest)
  if whole.isEmpty && fraction.isEmpty then none
  else
    let power ← readPower? rest
    some ⟨negative, ofDigits (whole ++ fraction), power - fraction.length⟩

/-- Reads a number in decimal from a text. -/
def ofText? (s : String) : Option Decimal := ofChars? s.toList

end Decimal

/-- Reads a binary64 number from a text: a decimal, or the word for an infinity or for what is no number, in letters
of any case and with an optional sign. -/
def Binary64.ofChars? (cs : List Char) : Option Binary64 :=
  match Decimal.ofChars? cs with
  | some d => some d.toBinary64
  | none =>
    let (negative, word) := Decimal.splitSign cs
    let word := String.ofList (word.map Char.toLower)
    if word = "inf" ∨ word = "infinity" then some (.infinity negative)
    else if word = "nan" then some .nan
    else none

end RaceAlbum
