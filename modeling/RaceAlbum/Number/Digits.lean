import RaceAlbum.Number.Power

/-!
# Decimal digits

Naturals and integers as decimal digits, and digits read back. The digits are the ASCII ones only.
-/

namespace RaceAlbum

/-- The digit character of a number below ten. -/
def digitChar (n : Nat) : Char := Char.ofNat (48 + n % 10)

/-- The value of an ASCII digit. -/
def digitValue? (c : Char) : Option Nat := if '0' ≤ c ∧ c ≤ '9' then some (c.toNat - 48) else none

/-- Whether a character is an ASCII digit. -/
def isDigit (c : Char) : Bool := (digitValue? c).isSome

/-- The value of a run of digits, most significant first; what is no digit counts as zero. -/
def ofDigits (cs : List Char) : Nat := cs.foldl (fun n c => n * 10 + (digitValue? c).getD 0) 0

/-- The decimal digits of a natural, without leading zeros. -/
def natDigits (n : Nat) : List Char := if n < 10 then [digitChar n] else natDigits (n / 10) ++ [digitChar n]

/-- The last `width` decimal digits of a natural, zeros in front. -/
def paddedDigits : (width : Nat) → Nat → List Char
  | 0, _ => []
  | w + 1, n => paddedDigits w (n / 10) ++ [digitChar n]

/-- An integer in decimal. -/
def intDigits (n : Int) : List Char := if n < 0 then '-' :: natDigits n.natAbs else natDigits n.natAbs

/-- An integer in decimal, as text. -/
def intText (n : Int) : String := String.ofList (intDigits n)

/-- A natural in decimal, as text. -/
def natText (n : Nat) : String := String.ofList (natDigits n)

/-- Reads a run of digits in front of a text: the run and the rest. -/
def spanDigits (cs : List Char) : List Char × List Char := cs.span isDigit

/-- The integers of 64 bits. -/
def isInt64 (n : Int) : Bool := decide (-(twoPow 63 : Int) ≤ n ∧ n < (twoPow 63 : Int))

end RaceAlbum
