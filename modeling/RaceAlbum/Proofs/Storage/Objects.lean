import Mathlib.Algebra.Group.Nat.Defs
import Mathlib.Data.List.Basic
import RaceAlbum.Storage.Basic

/-!
# Objects and their keys

A key names the fresh identifier that was drawn for it, so that two keys with different ones differ (`photoKey_mark_inj`). A
call to a bucket is counted; it changes only the object of its key, and nothing at all if it fails.
-/

namespace RaceAlbum

/-! ## Keys -/

/-- A number is written in as many digits as were asked for. -/
theorem length_hexDigits (k n : Nat) : (hexDigits k n).length = k := by
  induction k generalizing n with
  | zero => rfl
  | succ k ih => rw [hexDigits, List.length_append, ih, List.length_singleton]

/-- A hexadecimal digit tells the last digit of a number. -/
theorem hexDigit_inj {m n : Nat} (h : hexDigit m = hexDigit n) : m % 16 = n % 16 := by
  have hall : ∀ i < 16, ∀ j < 16, hexDigit i = hexDigit j → i = j := by decide
  have hmod (k : Nat) : hexDigit (k % 16) = hexDigit k := by simp [hexDigit]
  refine hall _ (Nat.mod_lt _ (by decide)) _ (Nat.mod_lt _ (by decide)) ?_
  rw [hmod, hmod, h]

/-- Numbers that the digits suffice for are told apart by them. -/
theorem hexDigits_inj {k m n : Nat} (hm : m < 16 ^ k) (hn : n < 16 ^ k) (h : hexDigits k m = hexDigits k n) : m = n := by
  induction k generalizing m n with
  | zero => omega
  | succ k ih =>
    obtain ⟨hinit, hlast⟩ := List.append_inj' h rfl
    have hdigit := hexDigit_inj (List.singleton_inj.1 hlast)
    have hrest := ih (by omega) (by omega) hinit
    omega

namespace Uuid

/-- An identifier has thirty-two digits. -/
theorem length_digits (u : Uuid) : u.digits.length = 32 := length_hexDigits 32 u.value

/-- It is told by them. -/
theorem digits_inj {u v : Uuid} (h : u.digits = v.digits) : u = v := by
  have hvalue := hexDigits_inj u.lt v.lt h
  cases u
  cases v
  cases hvalue
  rfl

/-- Its text has thirty-six characters. -/
theorem length_chars (u : Uuid) : u.chars.length = 36 := by
  simp [chars, length_digits]

/-- Lists that agree on a stretch and after it agree from where it begins. -/
theorem drop_eq_of_take {cs ds : List Char} (n k : Nat) (h : (cs.drop n).take k = (ds.drop n).take k)
    (hrest : cs.drop (n + k) = ds.drop (n + k)) : cs.drop n = ds.drop n := by
  rw [← List.take_append_drop k (cs.drop n), ← List.take_append_drop k (ds.drop n), List.drop_drop, List.drop_drop, h,
    hrest]

/-- It is told by its text. -/
theorem chars_inj {u v : Uuid} (h : u.chars = v.chars) : u = v := by
  have hlength := length_digits
  obtain ⟨h₁, h⟩ := List.append_inj h (by simp [hlength])
  obtain ⟨h₂, h⟩ := List.append_inj (List.cons.inj h).2 (by simp [hlength])
  obtain ⟨h₃, h⟩ := List.append_inj (List.cons.inj h).2 (by simp [hlength])
  obtain ⟨h₄, h⟩ := List.append_inj (List.cons.inj h).2 (by simp [hlength])
  have h₅ := (List.cons.inj h).2
  have h₆ := drop_eq_of_take 8 4 h₂ (drop_eq_of_take 12 4 h₃ (drop_eq_of_take 16 4 h₄ h₅))
  exact digits_inj (drop_eq_of_take 0 8 h₁ h₆)

end Uuid

/-- The characters of the key of a photo. -/
theorem photoKey_toList (eventId mark : Uuid) (filename : String) :
    (photoKey eventId mark filename).toList =
      "events/".toList ++ eventId.chars ++ "/photos/".toList ++ mark.chars ++ ".".toList ++ extensionOf filename := by
  simp [photoKey, Uuid.text]

/-- Keys with different fresh identifiers differ. -/
theorem photoKey_mark_inj {eventId eventId' mark mark' : Uuid} {filename filename' : String}
    (h : photoKey eventId mark filename = photoKey eventId' mark' filename') : mark = mark' := by
  have hchars := congrArg String.toList h
  simp only [photoKey_toList, List.append_assoc] at hchars
  have hlength := Uuid.length_chars
  obtain ⟨-, hchars⟩ := List.append_inj hchars rfl
  obtain ⟨-, hchars⟩ := List.append_inj hchars (by rw [hlength, hlength])
  obtain ⟨-, hchars⟩ := List.append_inj hchars rfl
  exact Uuid.chars_inj (List.append_inj hchars (by rw [hlength, hlength])).1

/-! ## Buckets -/

namespace BucketStore

/-- A call that was made to remove an object and failed. -/
def FailedToRemove (s : BucketStore) (key : String) : Prop :=
  ∃ n, s.calls[n]? = some (.delete key) ∧ (List.lookup (n + 1) s.faults).isSome = true

variable {s s' : BucketStore} {key : String}

/-- Failures are not forgotten by further calls. -/
theorem FailedToRemove.later {calls : List BucketCall} (h : s.FailedToRemove key) (hcalls : s'.calls = s.calls ++ calls)
    (hfaults : s'.faults = s.faults) : s'.FailedToRemove key := by
  obtain ⟨n, hn, hfault⟩ := h
  obtain ⟨hlt, -⟩ := List.getElem?_eq_some_iff.1 hn
  refine ⟨n, ?_, hfaults ▸ hfault⟩
  rw [hcalls, List.getElem?_append_left hlt, hn]

/-- What is left without a key are the objects of the other keys. -/
theorem mem_without {o : String × Bytes} {objects : List (String × Bytes)} :
    o ∈ without key objects ↔ o ∈ objects ∧ o.1 ≠ key := by
  simp [without]

/-- A call succeeds and makes its change, or it fails and is recorded as one that fails; it is counted in either case. -/
theorem call_cases (s : BucketStore) (c : BucketCall) (change : List (String × Bytes) → List (String × Bytes)) :
    (s.call c change = (.ok (), { s with calls := s.calls ++ [c], objects := change s.objects })) ∨
      (∃ f, s.call c change = (.error f, { s with calls := s.calls ++ [c] })) ∧
        (List.lookup (s.calls.length + 1) s.faults).isSome = true := by
  unfold call
  simp only [List.length_append, List.length_singleton]
  cases h : List.lookup (s.calls.length + 1) s.faults with
  | none => exact .inl rfl
  | some fault => exact .inr ⟨⟨_, rfl⟩, rfl⟩

end BucketStore

end RaceAlbum
