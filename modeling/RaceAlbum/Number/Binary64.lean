import RaceAlbum.Number.Power

/-!
# Binary64 numbers, kept exactly

A score or a coordinate is a 64-bit binary floating-point number. Here such a number is its sign, its
significand and its exponent, so that comparing, rounding and writing are integer arithmetic: a finite number is
`significand * 2 ^ exponent` units of `2 ^ -1074`, the least positive number of the format.

`Binary64.ofRatio` rounds a ratio of naturals to the nearest number, a tie going to the even significand.
-/

namespace RaceAlbum

/-- The one pair that names a finite number: a significand of 53 bits, with the top bit set unless the number is
below the normal range. -/
structure Binary64.Canonical (significand exponent : Nat) : Prop where
  lt : significand < twoPow 53
  normal : twoPow 52 ≤ significand ∨ exponent = 0
  le : exponent ≤ 2045

instance (m e : Nat) : Decidable (Binary64.Canonical m e) :=
  decidable_of_iff (m < twoPow 53 ∧ (twoPow 52 ≤ m ∨ e = 0) ∧ e ≤ 2045)
    ⟨fun ⟨h, h', h''⟩ => ⟨h, h', h''⟩, fun ⟨h, h', h''⟩ => ⟨h, h', h''⟩⟩

/-- A 64-bit binary floating-point number. Zero has a sign; there is one value that is not a number. -/
inductive Binary64 where
  | nan
  | infinity (negative : Bool)
  | finite (negative : Bool) (significand exponent : Nat) (canonical : Binary64.Canonical significand exponent)
deriving DecidableEq

namespace Binary64

/-- The quotient of two naturals rounded to the nearest natural, a half going to the even one. -/
def roundHalfEven (num den : Nat) : Nat :=
  let q := num / den
  let r := num % den
  if 2 * r < den then q else if den < 2 * r then q + 1 else q + q % 2

/-- The finite number of these parts, or an infinity where they exceed the format. -/
def ofParts (negative : Bool) (significand exponent : Nat) : Binary64 :=
  if h : Canonical significand exponent then finite negative significand exponent h else infinity negative

/-- The number nearest to `num / den`, a tie going to the even significand; an infinity beyond the largest one. -/
def ofRatio (negative : Bool) (num den : Nat) : Binary64 :=
  let units := num * twoPow 1074
  let exponent := (units / den).log2 - 52
  let significand := roundHalfEven units (den * twoPow exponent)
  if significand = twoPow 53 then ofParts negative (twoPow 52) (exponent + 1) else ofParts negative significand exponent

/-- The number nearest to an integer. -/
def ofInt (n : Int) : Binary64 := ofRatio (decide (n < 0)) n.natAbs 1

/-- Positive zero. -/
def zero : Binary64 := ofParts false 0 0

/-- Neither an infinity nor the value that is no number. -/
def isFinite : Binary64 → Bool
  | finite .. => true
  | _ => false

/-- The sign bit, where there is one. -/
def isNegative : Binary64 → Bool
  | nan => false
  | infinity s => s
  | finite s .. => s

/-- The magnitude of a finite number in units of `2 ^ -1074`. -/
def magnitude : Binary64 → Nat
  | finite _ m e _ => m * twoPow e
  | _ => 0

/-- A finite number as a signed count of units of `2 ^ -1074`. -/
def units (x : Binary64) : Int := if x.isNegative then -(x.magnitude : Int) else x.magnitude

/-- Strictly smaller. What is no number is smaller than nothing and nothing is smaller than it. -/
def lt : Binary64 → Binary64 → Bool
  | nan, _ => false
  | _, nan => false
  | infinity s, infinity s' => s && !s'
  | infinity s, finite .. => s
  | finite .., infinity s => !s
  | x@(finite ..), y@(finite ..) => decide (x.units < y.units)

/-- Smaller or equal as numbers; the two zeros are equal. -/
def le (x y : Binary64) : Bool := match x, y with
  | nan, _ => false
  | _, nan => false
  | x, y => !y.lt x

/-- Equal as numbers; the two zeros are equal and what is no number differs from itself. -/
def eq (x y : Binary64) : Bool := x.le y && y.le x

/-- Whether the number is an integer. -/
def isIntegral (x : Binary64) : Bool := x.isFinite && x.magnitude % twoPow 1074 == 0

/-- The integer towards zero of a finite number. -/
def truncate (x : Binary64) : Int :=
  let n : Int := (x.magnitude / twoPow 1074 : Nat)
  if x.isNegative then -n else n

/-- The greatest integer that is not greater than a finite number. -/
def floor (x : Binary64) : Int := x.units / (twoPow 1074 : Int)

/-- A finite number rounded to `places` decimal places, an exact half going to the even last digit; the result is
again the nearest binary number. What is not finite stays. -/
def roundPlaces (places : Nat) (x : Binary64) : Binary64 := match x with
  | finite s .. => ofRatio s (roundHalfEven (x.magnitude * tenPow places) (twoPow 1074)) (tenPow places)
  | x => x

/-- The number, with no sign if it is a zero. -/
def withoutZeroSign : Binary64 → Binary64
  | finite _ 0 e h => finite false 0 e h
  | x => x

end Binary64

end RaceAlbum
