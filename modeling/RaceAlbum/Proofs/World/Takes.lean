import Mathlib.Algebra.GroupWithZero.Nat
import RaceAlbum.Proofs.World.Tape

/-!
# Programs that only draw

`Takes m n x` says that a program asks for nothing but moments and identifiers, for at most so many of each, and that it ends
with a result if it gets them. A tape that holds as many is enough for it (`Takes.run`).
-/

namespace RaceAlbum

open Program

variable {α β : Type} {m m' n n' : Nat}

/-- A program that takes at most `m` readings and `n` identifiers, and succeeds if it gets them. -/
inductive Takes : Nat → Nat → Program α → Prop where
  | done {m n : Nat} (a : α) : Takes m n (.done a)
  | readClock {m n : Nat} {next : Except Failure Port.readClock.Answer → Program α} :
      (∀ t, Takes m n (next (.ok t))) → Takes (m + 1) n (.ask .readClock next)
  | takeId {m n : Nat} {next : Except Failure Port.takeId.Answer → Program α} :
      (∀ id, Takes m n (next (.ok id))) → Takes m (n + 1) (.ask .takeId next)

namespace Takes

/-- What may be taken need not be taken. -/
theorem mono {x : Program α} (hx : Takes m n x) (hm : m ≤ m') (hn : n ≤ n') : Takes m' n' x := by
  induction hx generalizing m' n' with
  | done a => exact .done a
  | readClock _ ih =>
    obtain ⟨k, rfl⟩ : ∃ k, m' = k + 1 := ⟨m' - 1, by omega⟩
    exact .readClock fun t => ih t (by omega) hn
  | takeId _ ih =>
    obtain ⟨k, rfl⟩ : ∃ k, n' = k + 1 := ⟨n' - 1, by omega⟩
    exact .takeId fun id => ih id hm (by omega)

/-- Two programs in a row take what both of them take. -/
theorem bind {x : Program α} {k : α → Program β} (hx : Takes m n x) (hk : ∀ a, Takes m' n' (k a)) :
    Takes (m + m') (n + n') (x >>= k) := by
  change Takes _ _ (Program.bind x k)
  induction hx with
  | done a => exact (hk a).mono (by omega) (by omega)
  | readClock _ ih =>
    rw [Nat.succ_add]
    exact .readClock ih
  | takeId _ ih =>
    rw [Nat.succ_add]
    exact .takeId ih

/-- A changed result takes no more than the result. -/
theorem map {x : Program α} (f : α → β) (hx : Takes m n x) : Takes m n (f <$> x) := by
  have hdone (a : α) : Takes 0 0 (.done (f a)) := .done (f a)
  exact hx.bind hdone

/-- A program that is done for each item of a list takes what it takes for all of them. -/
theorem forAll {f : α → Program β} {as : List α} (need : α → Nat) (hf : ∀ a ∈ as, Takes (need a) (need a) (f a)) :
    Takes (as.map need).sum (as.map need).sum (Program.forAll f as) := by
  induction as with
  | nil => exact .done []
  | cons a as ih =>
    obtain ⟨ha, has⟩ := List.forall_mem_cons.1 hf
    rw [List.map_cons, List.sum_cons]
    exact ha.bind fun b => (ih has).map (List.cons b)

/-- An identifier is taken. -/
theorem ofTakeId : Takes 0 1 Program.takeId := .takeId fun id => .done id

/-- A reading of the clock is taken. -/
theorem ofReadClock : Takes 1 0 Program.readClock := .readClock fun t => .done (Stamp.ofUtc t)

end Takes

/-- The tape holds as many readings and identifiers. -/
structure Tape.Holds (t : Tape) (m n : Nat) : Prop where
  moments : m ≤ t.moments.length
  ids : n ≤ t.ids.length

/-- Whether a tape holds enough can be checked. -/
instance (t : Tape) (m n : Nat) : Decidable (t.Holds m n) :=
  decidable_of_iff (m ≤ t.moments.length ∧ n ≤ t.ids.length) ⟨fun ⟨hm, hn⟩ => ⟨hm, hn⟩, fun ⟨hm, hn⟩ => ⟨hm, hn⟩⟩

/-- A world in which nothing is stored, with `n` readings and as many identifiers to be given. -/
def World.fresh (n : Nat) : World Tape where
  supply := ⟨List.replicate n ⟨.first, .ofMicros 0⟩, (List.range n).map .ofNat⟩
  archive := .empty
  storage := .folder ⟨.empty, ""⟩

namespace Tape.Holds

/-- A tape with a reading gives it and holds the rest. -/
theorem readClock {t : Tape} (h : t.Holds (m + 1) n) :
    ∃ r rest, t = ⟨r :: rest, t.ids⟩ ∧ Holds ⟨rest, t.ids⟩ m n := by
  obtain ⟨r, rest, hr⟩ := List.exists_cons_of_length_pos (Nat.lt_of_lt_of_le (Nat.succ_pos m) h.moments)
  have hlength := h.moments
  rw [hr, List.length_cons] at hlength
  exact ⟨r, rest, by rw [← hr], Nat.le_of_succ_le_succ hlength, h.ids⟩

/-- A tape with an identifier gives it and holds the rest. -/
theorem takeId {t : Tape} (h : t.Holds m (n + 1)) :
    ∃ id rest, t = ⟨t.moments, id :: rest⟩ ∧ Holds ⟨t.moments, rest⟩ m n := by
  obtain ⟨id, rest, hid⟩ := List.exists_cons_of_length_pos (Nat.lt_of_lt_of_le (Nat.succ_pos n) h.ids)
  have hlength := h.ids
  rw [hid, List.length_cons] at hlength
  exact ⟨id, rest, by rw [← hid], h.moments, Nat.le_of_succ_le_succ hlength⟩

end Tape.Holds

/-- A program that only draws succeeds on a tape that holds enough, and leaves what it does not take. -/
theorem Takes.run {x : Program α} {w : World Tape} (hx : Takes m n x) (hw : w.supply.Holds (m + m') (n + n')) :
    ∃ a w', Program.run taped x w = (.ok a, w') ∧ w'.supply.Holds m' n' := by
  obtain ⟨t, archive, storage⟩ := w
  induction hx generalizing t with
  | done a => exact ⟨a, _, rfl, Nat.le_trans (Nat.le_add_left _ _) hw.moments, Nat.le_trans (Nat.le_add_left _ _) hw.ids⟩
  | readClock _ ih =>
    rw [Nat.succ_add] at hw
    obtain ⟨r, rest, ht, hrest⟩ : ∃ r rest, t = ⟨r :: rest, t.ids⟩ ∧ Tape.Holds ⟨rest, t.ids⟩ _ _ := hw.readClock
    obtain ⟨a, w', ha, hw'⟩ := ih r ⟨rest, t.ids⟩ hrest
    rw [ht]
    exact ⟨a, w', ha, hw'⟩
  | takeId _ ih =>
    rw [Nat.succ_add] at hw
    obtain ⟨id, rest, ht, hrest⟩ : ∃ id rest, t = ⟨t.moments, id :: rest⟩ ∧ Tape.Holds ⟨t.moments, rest⟩ _ _ := hw.takeId
    obtain ⟨a, w', ha, hw'⟩ := ih id ⟨t.moments, rest⟩ hrest
    rw [ht]
    exact ⟨a, w', ha, hw'⟩

end RaceAlbum
