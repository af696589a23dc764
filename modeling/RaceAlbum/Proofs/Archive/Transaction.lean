import RaceAlbum.Archive.Transaction
import RaceAlbum.World

/-!
# Transactions keep all or nothing

`Made a ss a'` says that the statements `ss`, made one after the other on the rows of `a`, all succeed and lead to `a'`.
A transaction that succeeds is such a run (`transact_eq_ok_iff`). One that fails leaves the rows as they were, whatever its
statements did before the one that was refused, and fails as that one did (`transact_error`).
-/

namespace RaceAlbum

/-- Statements made one after the other, none of which is refused. -/
inductive Made : Archive → List Statement → Archive → Prop where
  | nil (a : Archive) : Made a [] a
  | cons {a a₁ a' : Archive} {s : Statement} {ss : List Statement} : s a = .ok a₁ → Made a₁ ss a' → Made a (s :: ss) a'

theorem made_nil_iff {a a' : Archive} : Made a [] a' ↔ a' = a := by
  constructor
  · rintro ⟨⟩
    rfl
  · rintro rfl
    exact .nil _

theorem made_cons_iff {a a' : Archive} {s : Statement} {ss : List Statement} :
    Made a (s :: ss) a' ↔ ∃ a₁, s a = .ok a₁ ∧ Made a₁ ss a' := by
  constructor
  · rintro (_ | ⟨hs, h⟩)
    exact ⟨_, hs, h⟩
  · rintro ⟨a₁, hs, h⟩
    exact .cons hs h

/-- Statements in two parts are made part by part. -/
theorem made_append_iff {a a' : Archive} {ss ss' : List Statement} :
    Made a (ss ++ ss') a' ↔ ∃ a₁, Made a ss a₁ ∧ Made a₁ ss' a' := by
  induction ss generalizing a with
  | nil => simp [made_nil_iff]
  | cons s ss ih =>
    simp only [List.cons_append, made_cons_iff, ih]
    constructor
    · rintro ⟨a₁, hs, a₂, h, h'⟩
      exact ⟨a₂, ⟨a₁, hs, h⟩, h'⟩
    · rintro ⟨a₂, ⟨a₁, hs, h⟩, h'⟩
      exact ⟨a₁, hs, a₂, h, h'⟩

/-- A property of archives that each statement keeps is kept by all of them together. -/
theorem Made.keeps {P : Archive → Prop} {a a' : Archive} {ss : List Statement} (h : Made a ss a')
    (hP : ∀ s ∈ ss, ∀ b b', P b → s b = .ok b' → P b') (ha : P a) : P a' := by
  induction h with
  | nil a => exact ha
  | cons hs _ ih =>
    exact ih (fun s hs' => hP s (List.mem_cons_of_mem _ hs')) (hP _ List.mem_cons_self _ _ ha hs)

namespace Transaction

/-- All statements of a run that succeeds are made, and what is kept stays as it is until the run is committed. -/
theorem executeAll_eq_ok_iff {t t' : Transaction} {ss : List Statement} :
    t.executeAll ss = (.ok (), t') ↔ Made t.working ss t'.working ∧ t'.kept = t.kept := by
  induction ss generalizing t with
  | nil =>
    cases t'
    cases t
    simp [executeAll, made_nil_iff, eq_comm, and_comm]
  | cons s ss ih =>
    rw [executeAll, execute, made_cons_iff]
    cases hs : s t.working with
    | ok a => simp [ih]
    | error f => simp

/-- A run of statements that fails does so at one of them: those before it were made, and what is kept stays as it is. -/
theorem executeAll_error {t t' : Transaction} {ss : List Statement} {f : Failure}
    (h : t.executeAll ss = (.error f, t')) :
    t'.kept = t.kept ∧ ∃ before s after, ss = before ++ s :: after ∧ Made t.working before t'.working ∧
      s t'.working = .error f := by
  induction ss generalizing t with
  | nil => cases (Prod.mk.inj h).1
  | cons s ss ih =>
    rw [executeAll, execute] at h
    cases hs : s t.working with
    | ok a =>
      rw [hs] at h
      obtain ⟨hk, before, s', after, rfl, hm, hf⟩ := ih h
      exact ⟨hk, s :: before, s', after, rfl, .cons hs hm, hf⟩
    | error g =>
      rw [hs] at h
      obtain ⟨hg, rfl⟩ := Prod.mk.inj h
      cases hg
      exact ⟨rfl, [], s, ss, rfl, .nil _, hs⟩

end Transaction

namespace Archive

/-- A transaction succeeds where all its statements are made. -/
theorem transact_eq_ok_iff {a a' : Archive} {ss : List Statement} :
    a.transact ss = (.ok (), a') ↔ Made a ss a' := by
  rcases h : (Transaction.start a).executeAll ss with ⟨f | ⟨⟨⟩⟩, t⟩
  · have hn : ¬Made a ss a' := fun hm => by
      have : (Transaction.start a).executeAll ss = (.ok (), ⟨a, a'⟩) := Transaction.executeAll_eq_ok_iff.2 ⟨hm, rfl⟩
      rw [h] at this
      cases (Prod.mk.inj this).1
    simp [transact, Transaction.run, h, hn]
  · have hm := (Transaction.executeAll_eq_ok_iff.1 h).1
    constructor
    · intro ht
      simp only [transact, Transaction.run, h, Transaction.commit, Prod.mk.injEq, true_and] at ht
      exact ht ▸ hm
    · intro hm'
      have : (Transaction.start a).executeAll ss = (.ok (), ⟨a, a'⟩) := Transaction.executeAll_eq_ok_iff.2 ⟨hm', rfl⟩
      rw [h] at this
      obtain ⟨-, rfl⟩ := Prod.mk.inj this
      simp [transact, Transaction.run, h, Transaction.commit]

/-- A transaction that fails takes back what its statements did, and fails as the first of them that was refused. -/
theorem transact_error {a a' : Archive} {ss : List Statement} {f : Failure} (h : a.transact ss = (.error f, a')) :
    a' = a ∧ ∃ before s after a₁, ss = before ++ s :: after ∧ Made a before a₁ ∧ s a₁ = .error f := by
  rcases ht : (Transaction.start a).executeAll ss with ⟨g | ⟨⟨⟩⟩, t⟩
  · simp only [transact, Transaction.run, ht, Transaction.rollback, Prod.mk.injEq, Except.error.injEq] at h
    obtain ⟨rfl, rfl⟩ := h
    obtain ⟨hk, before, s, after, hss, hm, hf⟩ := Transaction.executeAll_error ht
    exact ⟨hk, before, s, after, t.working, hss, hm, hf⟩
  · simp [transact, Transaction.run, ht] at h

/-- A write of one statement succeeds where the statement is made. -/
theorem write_ok {α : Type} {a a' : Archive} {answer b : α} {s : Statement}
    (h : a.write answer [s] = (.ok b, a')) : s a = .ok a' ∧ b = answer := by
  unfold write at h
  rcases ht : a.transact [s] with ⟨f | ⟨⟨⟩⟩, a₁⟩
  · rw [ht] at h
    cases (Prod.mk.inj h).1
  · rw [ht] at h
    obtain ⟨hb, rfl⟩ := Prod.mk.inj h
    cases hb
    obtain ⟨a₂, hs, hm⟩ := made_cons_iff.1 (transact_eq_ok_iff.1 ht)
    rw [made_nil_iff.1 hm]
    exact ⟨hs, rfl⟩

/-- A write of one statement succeeds with its answer where the statement is made. -/
theorem write_of_ok {α : Type} {a a' : Archive} {s : Statement} (answer : α) (h : s a = .ok a') :
    a.write answer [s] = (.ok answer, a') := by
  have ht : a.transact [s] = (.ok (), a') := transact_eq_ok_iff.2 (.cons h (.nil a'))
  unfold write
  rw [ht]
  rfl

/-- A write of one statement fails as the statement does. -/
theorem write_of_error {α : Type} {a : Archive} {s : Statement} {f : Failure} (answer : α) (h : s a = .error f) :
    a.write answer [s] = (.error f, a) := by
  have ht : a.transact [s] = (.error f, a) := by
    simp [transact, Transaction.run, Transaction.executeAll, Transaction.execute, Transaction.start, Transaction.rollback,
      h]
  unfold write
  rw [ht]
  rfl

/-- A photo that is stored is saved. -/
theorem answer_savePhoto_of_ok {a a' : Archive} {p : Photo} (h : a.storePhoto p = .ok a') :
    Archive.answer (.savePhoto p) a = (.ok p.assumeUtc, a') :=
  write_of_ok (s := fun a => a.storePhoto p) p.assumeUtc h

/-- A photo that is refused changes nothing. -/
theorem answer_savePhoto_of_error {a : Archive} {p : Photo} {f : Failure} (h : a.storePhoto p = .error f) :
    Archive.answer (.savePhoto p) a = (.error f, a) :=
  write_of_error (s := fun a => a.storePhoto p) p.assumeUtc h

/-- A write that fails changes nothing. -/
theorem write_error {α : Type} {a a' : Archive} {answer : α} {ss : List Statement} {f : Failure}
    (h : a.write answer ss = (.error f, a')) : a' = a := by
  unfold write at h
  rcases ht : a.transact ss with ⟨g | ⟨⟨⟩⟩, a₁⟩
  · rw [ht] at h
    obtain ⟨-, rfl⟩ := Prod.mk.inj h
    exact (transact_error ht).1
  · rw [ht] at h
    cases (Prod.mk.inj h).1

end Archive

end RaceAlbum
