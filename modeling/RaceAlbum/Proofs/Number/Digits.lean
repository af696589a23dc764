import Mathlib.Data.List.Induction
import Mathlib.Data.List.TakeDrop
import Mathlib.Tactic.Ring
import RaceAlbum.Number.Digits

/-!
# Digits and their numbers

A digit is read as the number that it was written for, and a run of digits as the sum of its parts, each moved by the digits
after it (`ofDigits_append`). So a number that is padded with zeros is read back as long as it fits.
-/

namespace RaceAlbum

variable {c : Char} {cs ds : List Char}

@[simp] theorem digitValue?_digitChar (n : Nat) : digitValue? (digitChar n) = some (n % 10) := by
  have hall : ∀ d < 10, digitValue? (Char.ofNat (48 + d)) = some d := by decide
  exact hall _ (Nat.mod_lt _ (by decide))

@[simp] theorem isDigit_digitChar (n : Nat) : isDigit (digitChar n) = true := by
  rw [isDigit, digitValue?_digitChar]
  rfl

/-- A digit is the character of its value. -/
theorem digitChar_of_value {n : Nat} (h : digitValue? c = some n) : n < 10 ∧ c = digitChar n := by
  unfold digitValue? at h
  split at h
  · rename_i hc
    obtain rfl := Option.some.inj h
    have hlow : 48 ≤ c.toNat := hc.1
    have hhigh : c.toNat ≤ 57 := hc.2
    have hsmall : c.toNat - 48 < 10 := by omega
    refine ⟨hsmall, ?_⟩
    rw [digitChar, Nat.mod_eq_of_lt hsmall, Nat.add_sub_cancel' hlow, Char.ofNat_toNat]
  · cases h

/-- What holds of the ten digits holds of every digit. -/
theorem of_isDigit (P : Char → Prop) (h : ∀ n < 10, P (digitChar n)) (hc : isDigit c = true) : P c := by
  obtain ⟨n, hn⟩ := Option.isSome_iff_exists.1 hc
  obtain ⟨hlt, rfl⟩ := digitChar_of_value hn
  exact h n hlt

/-- A number in `width` digits has as many. -/
@[simp] theorem length_paddedDigits (width n : Nat) : (paddedDigits width n).length = width := by
  induction width generalizing n with
  | zero => rfl
  | succ width ih => simp [paddedDigits, ih]

theorem isDigit_of_mem_paddedDigits {width n : Nat} (h : c ∈ paddedDigits width n) : isDigit c = true := by
  induction width generalizing n with
  | zero => cases h
  | succ width ih =>
    rcases List.mem_append.1 h with h | h
    · exact ih h
    · rw [List.mem_singleton.1 h]
      exact isDigit_digitChar n

theorem not_mem_paddedDigits (h : isDigit c = false) (width n : Nat) : c ∉ paddedDigits width n := by
  intro hmem
  rw [isDigit_of_mem_paddedDigits hmem] at h
  cases h

theorem isDigit_of_mem_natDigits {n : Nat} (h : c ∈ natDigits n) : isDigit c = true := by
  induction n using Nat.strongRecOn with
  | ind n ih =>
    rw [natDigits] at h
    split at h
    · rw [List.mem_singleton.1 h]
      exact isDigit_digitChar n
    · rcases List.mem_append.1 h with h | h
      · exact ih (n / 10) (by omega) h
      · rw [List.mem_singleton.1 h]
        exact isDigit_digitChar n

/-- The value of a run of digits goes on from the value of what stands before it. -/
theorem foldl_digits (n : Nat) (ds : List Char) :
    ds.foldl (fun n c => n * 10 + (digitValue? c).getD 0) n = n * 10 ^ ds.length + ofDigits ds := by
  induction ds generalizing n with
  | nil => simp [ofDigits]
  | cons d ds ih =>
    have hfirst : ofDigits (d :: ds) = (digitValue? d).getD 0 * 10 ^ ds.length + ofDigits ds := by
      rw [ofDigits, List.foldl_cons, ih, Nat.zero_mul, Nat.zero_add]
    rw [List.foldl_cons, ih, hfirst, List.length_cons, pow_succ]
    ring

/-- Digits in front are moved by the digits after them. -/
theorem ofDigits_append (ds es : List Char) : ofDigits (ds ++ es) = ofDigits ds * 10 ^ es.length + ofDigits es := by
  rw [ofDigits, List.foldl_append, foldl_digits]
  rfl

/-- The value of a run of digits is below the power of ten of their number. -/
theorem ofDigits_lt (ds : List Char) : ofDigits ds < 10 ^ ds.length := by
  induction ds using List.reverseRecOn with
  | nil => decide
  | append_singleton ds d ih =>
    have hdigit : ofDigits [d] < 10 := by
      change 0 * 10 + (digitValue? d).getD 0 < 10
      cases hvalue : digitValue? d with
      | none => decide
      | some n => simpa using (digitChar_of_value hvalue).1
    rw [ofDigits_append, List.length_append, pow_add]
    simp only [List.length_singleton, pow_one]
    omega

/-- Digits in any base that are written from the last one on are read back as far as they hold the number. -/
theorem foldl_written {α : Type} {base : Nat} {value : α → Nat} {last : Nat → α} {written : Nat → Nat → List α}
    (hlast : ∀ n, value (last n) = n % base) (hzero : ∀ n, written 0 n = [])
    (hsucc : ∀ width n, written (width + 1) n = written width (n / base) ++ [last n]) (width n : Nat) :
    (written width n).foldl (fun m d => m * base + value d) 0 = n % base ^ width := by
  induction width generalizing n with
  | zero => rw [hzero, List.foldl_nil, pow_zero, Nat.mod_one]
  | succ width ih =>
    rw [hsucc, List.foldl_append, List.foldl_cons, List.foldl_nil, ih, hlast, pow_succ, Nat.mul_comm (base ^ width),
      Nat.mod_mul, Nat.mul_comm base, Nat.add_comm]

/-- A number that is padded with zeros is read back as far as the digits hold it. -/
theorem ofDigits_paddedDigits (width n : Nat) : ofDigits (paddedDigits width n) = n % 10 ^ width :=
  foldl_written (fun n => by simp) (fun _ => rfl) (fun _ _ => rfl) width n

/-- Zeros after a run of digits move it. -/
theorem ofDigits_zeros (ds : List Char) (n : Nat) : ofDigits (ds ++ List.replicate n '0') = ofDigits ds * 10 ^ n := by
  have hzeros : ofDigits (List.replicate n '0') = 0 := by
    induction n with
    | zero => rfl
    | succ n ih =>
      rw [List.replicate_succ', ofDigits_append, ih]
      rfl
  rw [ofDigits_append, hzeros, List.length_replicate, Nat.add_zero]

/-- A run of digits is read up to what is no digit. -/
theorem spanDigits_append (hds : ∀ d ∈ ds, isDigit d = true) (hcs : ∀ c ∈ cs.head?, isDigit c = false) :
    spanDigits (ds ++ cs) = (ds, cs) := by
  rw [spanDigits, List.span_eq_takeWhile_dropWhile, List.takeWhile_append_of_pos hds, List.dropWhile_append_of_pos hds]
  cases cs with
  | nil => simp
  | cons c cs =>
    have hc : ¬isDigit c = true := Bool.not_eq_true _ ▸ hcs c rfl
    rw [List.takeWhile_cons_of_neg hc, List.dropWhile_cons_of_neg hc, List.append_nil]

end RaceAlbum
