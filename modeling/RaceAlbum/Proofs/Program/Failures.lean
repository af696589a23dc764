import RaceAlbum.Proofs.Program.Asks
import RaceAlbum.Proofs.Program.Run

/-!
# How failed answers end programs

`Asked h x s q s'` says that a run of the program `x` from the state `s` asks the question `q` in the state `s'`. A program
passes failed answers of a kind on (`PassesOn`) if it ends with each of them at once. What such a program was refused is
then what its caller is told (`PassesOn.run_eq`).
-/

namespace RaceAlbum.Program

variable {α β σ : Type} {P : Port → Prop}

/-- A question that a run asks, and the state in which it asks it. -/
inductive Asked (h : Handler σ) : Program α → σ → Port → σ → Prop where
  | now (p : Port) (next : Except Failure p.Answer → Program α) (s : σ) : Asked h (.ask p next) s p s
  | later {p q : Port} {next : Except Failure p.Answer → Program α} {s s' : σ} :
      Asked h (next (h p s).1) (h p s).2 q s' → Asked h (.ask p next) s q s'

/-- What is asked by a program all of whose questions have a property has it. -/
theorem Asks.asked {h : Handler σ} {x : Program α} {q : Port} {s s' : σ} (hx : Asks P x) (hq : Asked h x s q s') : P q := by
  induction hq with
  | now p next s =>
    cases hx with
    | ask hp _ => exact hp
  | later _ ih =>
    cases hx with
    | ask _ hnext => exact ih (hnext _)

namespace Asked

variable {h : Handler σ} {x : Program α} {k : α → Program β} {q : Port} {s s₁ s' : σ}

/-- A run of two programs in a row asks what the first one asks, and what the second one asks where it goes on. -/
theorem bind_iff : Asked h (x >>= k) s q s' ↔
    Asked h x s q s' ∨ ∃ a s₁, run h x s = (.ok a, s₁) ∧ Asked h (k a) s₁ q s' := by
  change Asked h (Program.bind x k) s q s' ↔ _
  induction x generalizing s with
  | done a =>
    constructor
    · exact fun hq => .inr ⟨a, s, rfl, hq⟩
    · rintro (hq | ⟨b, s₁, hrun, hq⟩)
      · cases hq
      · cases hrun
        exact hq
  | failed f =>
    constructor
    · intro hq
      cases hq
    · rintro (hq | ⟨b, s₁, hrun, -⟩)
      · cases hq
      · cases hrun
  | ask p next ih =>
    constructor
    · intro hq
      cases hq with
      | now => exact .inl (.now _ _ _)
      | later hq => exact ((ih _).1 hq).imp_left .later
    · rintro (hq | ⟨a, s₁, hrun, hq⟩)
      · cases hq with
        | now => exact .now _ _ _
        | later hq => exact .later ((ih _).2 (.inl hq))
      · exact .later ((ih _).2 (.inr ⟨a, s₁, hrun, hq⟩))

/-- One question asks that question. -/
theorem call_iff {p : Port} : Asked h (call p) s q s' ↔ q = p ∧ s' = s := by
  constructor
  · intro hq
    cases hq with
    | now => exact ⟨rfl, rfl⟩
    | later hq => cases hp : (h p s).1 <;> rw [hp] at hq <;> cases hq
  · rintro ⟨rfl, rfl⟩
    exact .now _ _ _

/-- A program with its failure as a result asks what the program asks. -/
theorem attempt_iff : Asked h x.attempt s q s' ↔ Asked h x s q s' := by
  induction x generalizing s with
  | done a => exact ⟨nofun, nofun⟩
  | failed f => exact ⟨nofun, nofun⟩
  | ask p next ih =>
    constructor
    · intro hq
      cases hq with
      | now => exact .now _ _ _
      | later hq => exact .later ((ih _).1 hq)
    · intro hq
      cases hq with
      | now => exact .now _ _ _
      | later hq => exact .later ((ih _).2 hq)

/-- What follows a program is asked where it goes on. -/
theorem after (hx : run h x s = (.ok a, s₁)) (hq : Asked h (k a) s₁ q s') : Asked h (x >>= k) s q s' :=
  bind_iff.2 (.inr ⟨a, s₁, hx, hq⟩)

/-- What an item of a list asks is asked in a run through the list that reaches it. -/
theorem forAll {f : α → Program β} {before after : List α} {a : α} {bs : List β}
    (hbefore : run h (Program.forAll f before) s = (.ok bs, s₁)) (hq : Asked h (f a) s₁ q s') :
    Asked h (Program.forAll f (before ++ a :: after)) s q s' := by
  induction before generalizing s bs with
  | nil =>
    obtain ⟨-, rfl⟩ := Prod.mk.inj hbefore
    exact bind_iff.2 (.inl hq)
  | cons b before ih =>
    obtain ⟨c, bs', s₂, hb, hrest, -⟩ := run_forAll_cons_ok hbefore
    exact .after hb (bind_iff.2 (.inl (ih hrest)))

/-- What a run through a list asks is asked by one of the items, which the run reaches. -/
theorem of_forAll {f : α → Program β} {as : List α} (hq : Asked h (Program.forAll f as) s q s') :
    ∃ before a after bs s₁, as = before ++ a :: after ∧ run h (Program.forAll f before) s = (.ok bs, s₁) ∧
      Asked h (f a) s₁ q s' := by
  induction as generalizing s with
  | nil => cases hq
  | cons a as ih =>
    rcases bind_iff.1 hq with hq | ⟨b, s₁, hb, hq⟩
    · exact ⟨[], a, as, [], s, rfl, rfl, hq⟩
    · rcases bind_iff.1 hq with hq | ⟨bs, s₂, -, hq⟩
      · obtain ⟨before, c, after, bs, s₂, rfl, hbefore, hq⟩ := ih hq
        refine ⟨a :: before, c, after, b :: bs, s₂, rfl, ?_, hq⟩
        rw [run_forAll_cons hb, hbefore]
        rfl
      · cases hq

end Asked

/-- A program ends at once with every failed answer to a question of a kind. -/
inductive PassesOn (P : Port → Prop) : Program α → Prop where
  | done (a : α) : PassesOn P (.done a)
  | failed (f : Failure) : PassesOn P (.failed f)
  | ask {p : Port} {next : Except Failure p.Answer → Program α} :
      (P p → ∀ f, next (.error f) = .failed f) → (∀ r, PassesOn P (next r)) → PassesOn P (.ask p next)

namespace PassesOn

/-- A program that asks no question of a kind has nothing of it to pass on. -/
theorem of_asks {x : Program α} (hx : Asks (fun p => ¬P p) x) : PassesOn P x := by
  induction hx with
  | done a => exact .done a
  | failed f => exact .failed f
  | ask hp _ ih => exact .ask (fun h => absurd h hp) ih

theorem call (p : Port) : PassesOn P (Program.call p) := by
  refine .ask (fun _ f => rfl) fun r => ?_
  cases r with
  | ok a => exact .done a
  | error f => exact .failed f

theorem bind {x : Program α} {k : α → Program β} (hx : PassesOn P x) (hk : ∀ a, PassesOn P (k a)) :
    PassesOn P (x >>= k) := by
  change PassesOn P (Program.bind x k)
  induction hx with
  | done a => exact hk a
  | failed f => exact .failed f
  | ask hp _ ih =>
    refine .ask (fun hP f => ?_) ih
    rw [hp hP f]
    rfl

/-- The failed answer to a question of the kind is what the run ends with, and no question follows it. -/
theorem run_eq {h : Handler σ} {x : Program α} {q : Port} {s s' : σ} {f : Failure} (hx : PassesOn P x)
    (hq : Asked h x s q s') (hP : P q) (hf : (h q s').1 = .error f) : run h x s = (.error f, (h q s').2) := by
  induction hq with
  | now p next s =>
    cases hx with
    | ask hp _ =>
      change run h (next (h p s).1) (h p s).2 = _
      rw [hf, hp hP f]
      rfl
  | later _ ih =>
    cases hx with
    | ask _ hnext => exact ih (hnext _) hP hf

end PassesOn

end RaceAlbum.Program
