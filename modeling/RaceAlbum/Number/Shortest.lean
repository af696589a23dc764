import RaceAlbum.Number.Binary64
import RaceAlbum.Number.Digits

/-!
# The shortest decimal text of a binary64 number

A number is written with the fewest decimal digits that read back as the same number, and of those with the digits
nearest to it. `Binary64.shortest` finds the digits on one decimal grid after the other: a point of a grid lies in
the interval of reals that round to the number only if one of the number's two neighbours on that grid does.
`Binary64.text` places the point.
-/

namespace RaceAlbum.Binary64

/-- A ratio `num / den` divided by `10 ^ k`, kept as a ratio. -/
def scaleDown (num den : Nat) (k : Int) : Nat × Nat :=
  if 0 ≤ k then (num, den * tenPow k.toNat) else (num * tenPow (-k).toNat, den)

/-- Whether `10 ^ k` is at most `num / den`. -/
def tenPowLe (num den : Nat) (k : Int) : Bool :=
  let (n, d) := scaleDown num den k
  decide (d ≤ n)

/-- The least number of decimal places `p` with `num / den < 10 ^ p`, searched upwards from a lower estimate. -/
def placesFrom (num den : Nat) : (fuel : Nat) → Int → Int
  | 0, p => p
  | fuel + 1, p => if tenPowLe num den p then placesFrom num den fuel (p + 1) else p

/-- The decimal places of a positive ratio: the `p` with `10 ^ (p - 1) ≤ num / den < 10 ^ p`. -/
def decimalPlaces (num den : Nat) : Int :=
  let bits : Int := (num.log2 : Int) - den.log2
  placesFrom num den 4 ((bits - 1) * 30103 / 100000 - 1)

/-- The reals that round to a number, as an interval in a common denominator; the ends belong to it or not. -/
structure Interval where
  low : Nat
  mid : Nat
  high : Nat
  den : Nat
  closed : Bool

/-- The interval of a finite number of positive significand. Below a power of two the lower gap is half as wide. -/
def interval (significand exponent : Nat) : Interval where
  low := (4 * significand - (if significand = twoPow 52 ∧ 0 < exponent then 1 else 2)) * twoPow exponent
  mid := 4 * significand * twoPow exponent
  high := (4 * significand + 2) * twoPow exponent
  den := 4 * twoPow 1074
  closed := significand % 2 == 0

/-- Whether `count * 10 ^ k` lies in the interval. -/
def Interval.holds (i : Interval) (count : Nat) (k : Int) : Bool :=
  let (low, d) := scaleDown i.low i.den k
  let (high, _) := scaleDown i.high i.den k
  if i.closed then decide (low ≤ count * d) && decide (count * d ≤ high)
  else decide (low < count * d) && decide (count * d < high)

/-- The point of the grid of step `10 ^ k` in the interval that is nearest to the number, a tie going to the even
point; none where the grid has no point there. -/
def Interval.nearest? (i : Interval) (k : Int) : Option Nat :=
  let (mid, d) := scaleDown i.mid i.den k
  let below := mid / d
  let above := below + 1
  match i.holds below k, i.holds above k with
  | true, true =>
    let r := 2 * (mid % d)
    some (if r < d then below else if d < r then above else if below % 2 = 0 then below else above)
  | true, false => some below
  | false, true => some above
  | false, false => none

/-- Tries the grids of one digit more each time. -/
def Interval.search (i : Interval) (places : Int) : (fuel : Nat) → (digits : Nat) → Nat × Int
  | 0, digits => ((scaleDown i.mid i.den (places - digits)).1 / (scaleDown i.mid i.den (places - digits)).2,
      places - digits)
  | fuel + 1, digits =>
    match i.nearest? (places - digits) with
    | some c => (c, places - digits)
    | none => i.search places fuel (digits + 1)

/-- The shortest decimal `count * 10 ^ k` that rounds to the finite number of these parts. -/
def shortest (significand exponent : Nat) : Nat × Int :=
  let i := interval significand exponent
  i.search (decimalPlaces i.mid i.den) 17 1

/-- Drops the zeros at the end of a run of digits. -/
def dropTrailingZeros (ds : List Char) : List Char := (ds.reverse.dropWhile (· == '0')).reverse

/-- Where positional writing ends: a number is written with a power of ten when it is below `10 ^ -4` or at least
`10 ^ 16`. -/
def positionalMin : Int := -4

/-- The places up to which a number is written out. -/
def positionalMax : Int := 16

/-- Digits `ds` with the decimal point after the first `point` of them: written out between the two limits, where
an integer keeps one zero after its point, and with a power of ten of at least two digits outside them. -/
def placePoint (ds : List Char) (point : Int) : List Char :=
  if positionalMin < point ∧ point ≤ positionalMax then
    if point ≤ 0 then '0' :: '.' :: List.replicate (-point).toNat '0' ++ ds
    else if ds.length ≤ point.toNat then ds ++ List.replicate (point.toNat - ds.length) '0' ++ ['.', '0']
    else ds.take point.toNat ++ '.' :: ds.drop point.toNat
  else
    let power := point - 1
    let exponent := natDigits power.natAbs
    let mantissa := match ds with
      | [] => ['0']
      | [d] => [d]
      | d :: rest => d :: '.' :: rest
    mantissa ++ 'e' :: (if power < 0 then '-' else '+') ::
      (if exponent.length < 2 then '0' :: exponent else exponent)

/-- The text of a number. -/
def text (x : Binary64) : String := match x with
  | nan => "nan"
  | infinity s => if s then "-inf" else "inf"
  | finite s m e _ =>
    let body := if m = 0 then ['0', '.', '0'] else
      let (count, k) := shortest m e
      let all := natDigits count
      placePoint (dropTrailingZeros all) (all.length + k)
    String.ofList (if s then '-' :: body else body)

end RaceAlbum.Binary64
