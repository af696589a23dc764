import Mathlib.Algebra.Order.Ring.Nat
import Mathlib.Tactic.Linarith
import Mathlib.Tactic.Ring
import RaceAlbum.Proofs.Schema.Accepted

/-!
# Rounding once and twice

The quotient that is nearest is off by a half at most (`Binary64.roundHalfEven_bounds`), and so is the number that is nearest to
a ratio, in the last place of its significand (`Binary64.ofRatio_eq`). This is much less than a half of a decimal place as long
as the numbers are small. So a number between zero and a bound that was rounded to some decimal places is not changed by
rounding it again (`Binary64.Between.roundPlaces_twice`), and it still lies between them.
-/

namespace RaceAlbum

theorem twoPow_pos (k : Nat) : 0 < twoPow k := Nat.two_pow_pos k

theorem twoPow_add (j k : Nat) : twoPow (j + k) = twoPow j * twoPow k := Nat.pow_add 2 j k

theorem twoPow_le_iff {j k : Nat} : twoPow j ≤ twoPow k ↔ j ≤ k := Nat.pow_le_pow_iff_right (by decide)

theorem tenPow_pos (k : Nat) : 0 < tenPow k := Nat.pow_pos (by decide)

namespace Binary64

variable {num den : Nat}

/-! ## Quotients -/

/-- The nearest quotient is off by a half at most. -/
theorem roundHalfEven_bounds (num : Nat) (hden : 0 < den) :
    2 * (roundHalfEven num den * den) ≤ 2 * num + den ∧ 2 * num ≤ 2 * (roundHalfEven num den * den) + den := by
  have hdivision := Nat.div_add_mod num den
  have hrest := Nat.mod_lt num hden
  have hparity : num / den % 2 = 0 ∨ num / den % 2 = 1 := Nat.mod_two_eq_zero_or_one _
  rw [Nat.mul_comm] at hdivision
  unfold roundHalfEven
  dsimp only
  split
  · omega
  · split
    · rw [Nat.add_mul]
      omega
    · rcases hparity with heven | hodd
      · rw [heven, Nat.add_zero]
        omega
      · rw [hodd, Nat.add_mul]
        omega

/-- What is nearer than a half to a multiple is rounded to it. -/
theorem roundHalfEven_eq {k : Nat} (hden : 0 < den) (hlow : 2 * (k * den) < 2 * num + den)
    (hhigh : 2 * num < 2 * (k * den) + den) : roundHalfEven num den = k := by
  obtain ⟨hbelow, habove⟩ := roundHalfEven_bounds num hden
  have hle : roundHalfEven num den < k + 1 := by nlinarith
  have hge : k < roundHalfEven num den + 1 := by nlinarith
  omega

/-- What is not above a multiple is not rounded above it. -/
theorem roundHalfEven_le {k : Nat} (hden : 0 < den) (h : num ≤ k * den) : roundHalfEven num den ≤ k := by
  have hbelow := (roundHalfEven_bounds num hden).1
  by_contra hmore
  have hscaled := Nat.mul_le_mul_right den (Nat.lt_of_not_le hmore)
  nlinarith

/-- What is not below a multiple is not rounded below it. -/
theorem le_roundHalfEven {k : Nat} (hden : 0 < den) (h : k * den ≤ num) : k ≤ roundHalfEven num den := by
  have habove := (roundHalfEven_bounds num hden).2
  by_contra hless
  have hscaled := Nat.mul_le_mul_right den (Nat.lt_of_not_le hless)
  nlinarith

/-! ## Ratios -/

/-- The exponent of the number nearest to a ratio. -/
def ratioExponent (num den : Nat) : Nat := (num * twoPow 1074 / den).log2 - 52

/-- One in the last place of that number, in units of which there are `den * 2 ^ 1074` in one. -/
def ratioPlace (num den : Nat) : Nat := den * twoPow (ratioExponent num den)

/-- The significand of that number; it may be one too large for its width. -/
def ratioSignificand (num den : Nat) : Nat := roundHalfEven (num * twoPow 1074) (ratioPlace num den)

theorem ratioPlace_pos (num : Nat) (hden : 0 < den) : 0 < ratioPlace num den := Nat.mul_pos hden (twoPow_pos _)

/-- The significand needs 53 bits, and it needs all of them unless the exponent is zero. -/
theorem ratioPlace_spec (num : Nat) (hden : 0 < den) :
    (ratioExponent num den = 0 ∨ twoPow 52 * ratioPlace num den ≤ num * twoPow 1074) ∧
      num * twoPow 1074 ≤ twoPow 53 * ratioPlace num den := by
  have hswap (j : Nat) : twoPow j * ratioPlace num den = twoPow (j + ratioExponent num den) * den := by
    rw [ratioPlace, twoPow_add]
    ring
  rw [hswap, hswap]
  generalize hquotient : num * twoPow 1074 / den = q
  have hupper : q < twoPow (q.log2 + 1) := Nat.lt_log2_self
  have hunits {n : Nat} (h : q < n) : num * twoPow 1074 ≤ n * den :=
    Nat.le_of_lt ((Nat.div_lt_iff_lt_mul hden).1 (hquotient ▸ h))
  unfold ratioExponent
  rw [hquotient]
  by_cases hsmall : q.log2 ≤ 52
  · have hwidth : twoPow (q.log2 + 1) ≤ twoPow (53 + (q.log2 - 52)) := twoPow_le_iff.2 (by omega)
    exact ⟨.inl (Nat.sub_eq_zero_of_le hsmall), hunits (Nat.lt_of_lt_of_le hupper hwidth)⟩
  · have hnonzero : q ≠ 0 := by
      rintro rfl
      exact hsmall (by decide)
    have hlower : twoPow q.log2 ≤ q := Nat.log2_self_le hnonzero
    have hlow : 52 + (q.log2 - 52) = q.log2 := by omega
    have hhigh : 53 + (q.log2 - 52) = q.log2 + 1 := by omega
    rw [hlow, hhigh]
    exact ⟨.inr ((Nat.le_div_iff_mul_le hden).1 (hquotient ▸ hlower)), hunits hupper⟩

/-- The exponent of a number that is not large. -/
theorem ratioExponent_le (hden : 0 < den) (hnum : num ≤ twoPow 52) : ratioExponent num den ≤ 1074 := by
  rcases (ratioPlace_spec num hden).1 with hzero | hplace
  · omega
  · have hunits : num * twoPow 1074 ≤ twoPow 52 * twoPow 1074 := Nat.mul_le_mul_right _ hnum
    have hbelow : ratioPlace num den ≤ twoPow 1074 := Nat.le_of_mul_le_mul_left (Nat.le_trans hplace hunits) (twoPow_pos 52)
    have hone : twoPow (ratioExponent num den) ≤ ratioPlace num den := Nat.le_mul_of_pos_left _ hden
    exact twoPow_le_iff.1 (Nat.le_trans hone hbelow)

/-- A ratio that is not large has a nearest number, which has the sign, the significand and the exponent of the ratio. -/
theorem ofRatio_eq (negative : Bool) (hden : 0 < den) (hnum : num ≤ twoPow 52) :
    ∃ m e h, ofRatio negative num den = finite negative m e h ∧
      m * twoPow e = ratioSignificand num den * twoPow (ratioExponent num den) := by
  obtain ⟨hlow, hhigh⟩ := ratioPlace_spec num hden
  have hexponent := ratioExponent_le hden hnum
  have hmost : ratioSignificand num den ≤ twoPow 53 := roundHalfEven_le (ratioPlace_pos num hden) hhigh
  have hleast : twoPow 52 ≤ ratioSignificand num den ∨ ratioExponent num den = 0 :=
    hlow.symm.imp_left (le_roundHalfEven (ratioPlace_pos num hden))
  have hratio : ofRatio negative num den = if ratioSignificand num den = twoPow 53
      then ofParts negative (twoPow 52) (ratioExponent num den + 1)
      else ofParts negative (ratioSignificand num den) (ratioExponent num den) := rfl
  rw [hratio]
  split
  · rename_i hcarry
    have hcanonical : Canonical (twoPow 52) (ratioExponent num den + 1) := ⟨by decide, .inl (Nat.le_refl _), by omega⟩
    refine ⟨_, _, hcanonical, dif_pos hcanonical, ?_⟩
    rw [hcarry, ← twoPow_add, ← twoPow_add]
    exact congrArg twoPow (by omega)
  · have hcanonical : Canonical (ratioSignificand num den) (ratioExponent num den) := ⟨by omega, hleast, by omega⟩
    exact ⟨_, _, hcanonical, dif_pos hcanonical, rfl⟩

/-- The magnitude of the number nearest to a ratio, in places of its significand. -/
theorem ofRatio_magnitude (negative : Bool) (hden : 0 < den) (hnum : num ≤ twoPow 52) :
    (ofRatio negative num den).magnitude = ratioSignificand num den * twoPow (ratioExponent num den) := by
  obtain ⟨m, e, h, hratio, hmagnitude⟩ := ofRatio_eq negative hden hnum
  rw [hratio]
  exact hmagnitude

/-- The number nearest to a ratio lies below a bound that the ratio lies below, if the bound is an integer. -/
theorem ofRatio_magnitude_le {n : Nat} (negative : Bool) (hden : 0 < den) (hnum : num ≤ twoPow 52) (hn : num ≤ n * den) :
    (ofRatio negative num den).magnitude ≤ n * twoPow 1074 := by
  have hexponent := ratioExponent_le hden hnum
  have hpower : twoPow (1074 - ratioExponent num den) * twoPow (ratioExponent num den) = twoPow 1074 := by
    rw [← twoPow_add, Nat.sub_add_cancel hexponent]
  have hunits : num * twoPow 1074 ≤ n * twoPow (1074 - ratioExponent num den) * ratioPlace num den := by
    calc num * twoPow 1074
      _ ≤ n * den * twoPow 1074 := Nat.mul_le_mul_right _ hn
      _ = n * twoPow (1074 - ratioExponent num den) * ratioPlace num den := by
        rw [ratioPlace, ← hpower]
        ring
  rw [ofRatio_magnitude negative hden hnum]
  calc ratioSignificand num den * twoPow (ratioExponent num den)
    _ ≤ n * twoPow (1074 - ratioExponent num den) * twoPow (ratioExponent num den) :=
      Nat.mul_le_mul_right _ (roundHalfEven_le (ratioPlace_pos num hden) hunits)
    _ = n * twoPow 1074 := by rw [Nat.mul_assoc, hpower]

/-! ## Decimal places -/

/-- A number that is nearest to a count of decimal places is rounded to that count. -/
theorem roundPlaces_ofRatio {places : Nat} (negative : Bool) (hplaces : tenPow places < twoPow 1074)
    (hnum : num < twoPow 52) :
    roundPlaces places (ofRatio negative num (tenPow places)) = ofRatio negative num (tenPow places) := by
  have hden := tenPow_pos places
  obtain ⟨m, e, h, hratio, hmagnitude⟩ := ofRatio_eq negative hden (Nat.le_of_lt hnum)
  have hplace : ratioPlace num (tenPow places) < twoPow 1074 := by
    rcases (ratioPlace_spec num hden).1 with hzero | hfine
    · have hone : twoPow 0 = 1 := rfl
      rw [ratioPlace, hzero, hone, Nat.mul_one]
      exact hplaces
    · have hunits : num * twoPow 1074 < twoPow 52 * twoPow 1074 := Nat.mul_lt_mul_of_pos_right hnum (twoPow_pos _)
      exact Nat.lt_of_mul_lt_mul_left (Nat.lt_of_le_of_lt hfine hunits)
  -- the error is at most half a place of the significand, which is finer than a decimal place: the count comes back
  have hnear := roundHalfEven_bounds (num * twoPow 1074) (ratioPlace_pos num hden)
  have hscaled : m * twoPow e * tenPow places = ratioSignificand num (tenPow places) * ratioPlace num (tenPow places) := by
    rw [hmagnitude, ratioPlace]
    ring
  have hcount : roundHalfEven (m * twoPow e * tenPow places) (twoPow 1074) = num := by
    rw [hscaled]
    unfold ratioSignificand
    exact roundHalfEven_eq (twoPow_pos _) (by omega) (by omega)
  rw [hratio]
  change ofRatio negative (roundHalfEven (m * twoPow e * tenPow places) (twoPow 1074)) (tenPow places) = _
  rw [hcount, hratio]

variable {x : Binary64} {places n : Nat}

/-- A number that is not large has few decimal places. -/
theorem roundHalfEven_places_le (places : Nat) (hx : x.magnitude ≤ n * twoPow 1074) :
    roundHalfEven (x.magnitude * tenPow places) (twoPow 1074) ≤ n * tenPow places := by
  refine roundHalfEven_le (twoPow_pos _) ?_
  calc x.magnitude * tenPow places
    _ ≤ n * twoPow 1074 * tenPow places := Nat.mul_le_mul_right _ hx
    _ = n * tenPow places * twoPow 1074 := by ring

/-- To round a number twice is to round it once. -/
theorem roundPlaces_twice (hpos : 0 < n) (hn : n * tenPow places < twoPow 52) (hx : x.magnitude ≤ n * twoPow 1074) :
    roundPlaces places (roundPlaces places x) = roundPlaces places x := by
  have hplaces : tenPow places < twoPow 1074 :=
    calc tenPow places
      _ ≤ n * tenPow places := Nat.le_mul_of_pos_left _ hpos
      _ < twoPow 52 := hn
      _ ≤ twoPow 1074 := twoPow_le_iff.2 (by decide)
  cases x with
  | nan => rfl
  | infinity => rfl
  | finite negative m e h => exact roundPlaces_ofRatio negative hplaces (Nat.lt_of_le_of_lt (roundHalfEven_places_le places hx) hn)

/-! ## Signs -/

/-- Rounding keeps the sign. -/
theorem isNegative_roundPlaces (places : Nat) (x : Binary64) : (x.roundPlaces places).isNegative = x.isNegative := by
  have hparts (negative : Bool) (significand exponent : Nat) :
      (ofParts negative significand exponent).isNegative = negative := by
    unfold ofParts
    split
    · rfl
    · rfl
  cases x with
  | nan => rfl
  | infinity => rfl
  | finite negative m e h =>
    unfold roundPlaces ofRatio
    dsimp only
    split
    · exact hparts _ _ _
    · exact hparts _ _ _

/-- What has no sign has none to lose. -/
theorem withoutZeroSign_eq (h : x.isNegative = false) : x.withoutZeroSign = x := by
  cases x with
  | nan => rfl
  | infinity => rfl
  | finite negative m e _ =>
    obtain rfl : negative = false := h
    cases m with
    | zero => rfl
    | succ m => rfl

/-! ## Ranges -/

/-- An integer that is not large is a number. -/
theorem ofInt_natCast (hn : n ≤ twoPow 52) : ∃ m e h, ofInt n = finite false m e h ∧ m * twoPow e = n * twoPow 1074 := by
  obtain ⟨m, e, h, hratio, hmagnitude⟩ := ofRatio_eq false Nat.one_pos hn
  have hpower : twoPow (1074 - ratioExponent n 1) * ratioPlace n 1 = twoPow 1074 := by
    rw [ratioPlace, Nat.one_mul, ← twoPow_add, Nat.sub_add_cancel (ratioExponent_le Nat.one_pos hn)]
  have hunits : n * twoPow 1074 = n * twoPow (1074 - ratioExponent n 1) * ratioPlace n 1 := by rw [Nat.mul_assoc, hpower]
  have hexact : ratioSignificand n 1 = n * twoPow (1074 - ratioExponent n 1) :=
    Nat.le_antisymm (roundHalfEven_le (ratioPlace_pos n Nat.one_pos) hunits.le)
      (le_roundHalfEven (ratioPlace_pos n Nat.one_pos) hunits.ge)
  refine ⟨m, e, h, hratio, ?_⟩
  rw [hmagnitude, hexact, hunits, ratioPlace, Nat.one_mul]

/-- A number lies between zero and an integer that is not large if it is a number of no negative units and of no more units
than the integer has. -/
theorem between_zero_iff (hn : n ≤ twoPow 52) :
    x.Between 0 n ↔ x.isFinite = true ∧ 0 ≤ x.units ∧ x.units ≤ (n * twoPow 1074 : Nat) := by
  obtain ⟨m, e, h, hnumber, hunits⟩ := ofInt_natCast hn
  obtain ⟨m₀, e₀, h₀, hzero, hunits₀⟩ := ofInt_natCast (n := 0) (Nat.zero_le _)
  have hzero : ofInt 0 = finite false m₀ e₀ h₀ := hzero
  rw [Between, hnumber, hzero]
  have hunits : (finite false m e h).units = (n * twoPow 1074 : Nat) := congrArg Int.ofNat hunits
  have hunits₀ : (finite false m₀ e₀ h₀).units = 0 := congrArg Int.ofNat (hunits₀.trans (Nat.zero_mul _))
  generalize n * twoPow 1074 = bound at hunits ⊢
  cases x with
  | nan => exact iff_of_false (fun h => Bool.false_ne_true h.1) (fun h => Bool.false_ne_true h.1)
  | infinity negative =>
    refine iff_of_false ?_ (fun h => Bool.false_ne_true h.1)
    cases negative with
    | true => exact fun h => Bool.false_ne_true h.1
    | false => exact fun h => Bool.false_ne_true h.2
  | finite negative m' e' h' => simp [le, lt, isFinite, hunits, hunits₀]

/-- Rounding moves no number beyond an integer. -/
theorem roundPlaces_magnitude_le (hn : n * tenPow places ≤ twoPow 52) (hx : x.magnitude ≤ n * twoPow 1074) :
    (x.roundPlaces places).magnitude ≤ n * twoPow 1074 := by
  cases x with
  | nan => exact Nat.zero_le _
  | infinity => exact Nat.zero_le _
  | finite negative m e h =>
    have hcount := roundHalfEven_places_le places hx
    exact ofRatio_magnitude_le negative (tenPow_pos places) (Nat.le_trans hcount hn) hcount

namespace Between

/-- The magnitude of a number between zero and an integer, and its sign. -/
theorem magnitude_le (hn : n ≤ twoPow 52) (h : x.Between 0 n) :
    x.magnitude ≤ n * twoPow 1074 ∧ (x.isNegative = true → x.magnitude = 0) := by
  obtain ⟨-, hlow, hhigh⟩ := (between_zero_iff hn).1 h
  unfold units at hlow hhigh
  cases hsign : x.isNegative with
  | true =>
    rw [if_pos hsign] at hlow hhigh
    omega
  | false =>
    rw [if_neg (Bool.eq_false_iff.1 hsign)] at hlow hhigh
    exact ⟨by omega, nofun⟩

/-- A number between zero and an integer still lies between them when it was rounded. -/
theorem roundPlaces (hplaces : n * tenPow places ≤ twoPow 52) (h : x.Between 0 n) : (x.roundPlaces places).Between 0 n := by
  have hn : n ≤ twoPow 52 := Nat.le_trans (Nat.le_mul_of_pos_right n (tenPow_pos places)) hplaces
  obtain ⟨hmagnitude, hzero⟩ := h.magnitude_le hn
  have hrounded := roundPlaces_magnitude_le hplaces hmagnitude
  rw [between_zero_iff hn] at h ⊢
  cases x with
  | nan => exact h
  | infinity => exact h
  | finite negative m e hcanonical =>
    have hcount := roundHalfEven_places_le places hmagnitude
    obtain ⟨m', e', hcanonical', hratio, -⟩ := ofRatio_eq negative (tenPow_pos places) (Nat.le_trans hcount hplaces)
    have hresult : (finite negative m e hcanonical).roundPlaces places = finite negative m' e' hcanonical' := hratio
    -- a number below zero is the negative zero, and that stays
    have hstays (hneg : negative = true) : ((finite negative m e hcanonical).roundPlaces places).magnitude = 0 := by
      have hnone : (finite negative m e hcanonical).magnitude ≤ 0 * twoPow 1074 := by
        rw [hzero hneg]
        exact Nat.zero_le _
      have hmoved : ((finite negative m e hcanonical).roundPlaces places).magnitude ≤ 0 * twoPow 1074 :=
        roundPlaces_magnitude_le (by simp) hnone
      rwa [Nat.zero_mul, Nat.le_zero] at hmoved
    rw [hresult] at hrounded hstays ⊢
    refine ⟨rfl, ?_⟩
    cases negative with
    | true =>
      have hunits : (finite true m' e' hcanonical').units = -((finite true m' e' hcanonical').magnitude : Int) := rfl
      rw [hunits, hstays rfl]
      exact ⟨by decide, Int.natCast_nonneg _⟩
    | false => exact ⟨Int.natCast_nonneg _, Int.ofNat_le.2 hrounded⟩

/-- A number that is not below zero has no sign but that of a zero. -/
theorem isNegative_withoutZeroSign (hn : n ≤ twoPow 52) (h : x.Between 0 n) : x.withoutZeroSign.isNegative = false := by
  obtain ⟨-, hzero⟩ := h.magnitude_le hn
  cases x with
  | nan => rfl
  | infinity => cases ((between_zero_iff hn).1 h).1
  | finite negative m e _ =>
    cases m with
    | zero => rfl
    | succ m =>
      refine Bool.eq_false_iff.2 fun hnegative => ?_
      exact absurd (hzero hnegative) (Nat.mul_pos m.succ_pos (twoPow_pos e)).ne'

/-- To round a number between zero and an integer twice is to round it once. -/
theorem roundPlaces_twice (hpos : 0 < n) (hn : n * tenPow places < twoPow 52) (h : x.Between 0 n) :
    (x.roundPlaces places).roundPlaces places = x.roundPlaces places := by
  have hsmall : n ≤ twoPow 52 :=
    Nat.le_trans (Nat.le_mul_of_pos_right n (tenPow_pos places)) (Nat.le_of_lt hn)
  exact Binary64.roundPlaces_twice hpos hn (h.magnitude_le hsmall).1

end Between

end Binary64

end RaceAlbum
