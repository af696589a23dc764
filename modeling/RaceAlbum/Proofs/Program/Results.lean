import RaceAlbum.Proofs.Program.Run

/-!
# What programs come to

`Results P x` says that every result that the program `x` can come to has the property `P`, whatever it is answered. So the
result of each run has it (`Results.run_ok`), whoever answers.
-/

namespace RaceAlbum.Program

variable {α β σ : Type} {P : α → Prop} {Q : β → Prop}

/-- All results of a program have a property. -/
inductive Results (P : α → Prop) : Program α → Prop where
  | done {a : α} : P a → Results P (.done a)
  | failed (f : Failure) : Results P (.failed f)
  | ask {p : Port} {next : Except Failure p.Answer → Program α} :
      (∀ answer, Results P (next answer)) → Results P (.ask p next)

namespace Results

/-- Nothing is asked of a result. -/
theorem any (x : Program α) : Results (fun _ => True) x := by
  induction x with
  | done a => exact .done trivial
  | failed f => exact .failed f
  | ask p next ih => exact .ask ih

theorem bind {x : Program α} {k : α → Program β} (hx : Results P x) (hk : ∀ a, P a → Results Q (k a)) :
    Results Q (x >>= k) := by
  change Results Q (Program.bind x k)
  induction hx with
  | done ha => exact hk _ ha
  | failed f => exact .failed f
  | ask _ ih => exact .ask ih

/-- The results of two programs in a row are those of the second. -/
theorem andThen (x : Program α) {k : α → Program β} (hk : ∀ a, Results Q (k a)) : Results Q (x >>= k) :=
  (any x).bind fun a _ => hk a

/-- The result of a run has what all results have. -/
theorem run_ok {x : Program α} (hx : Results P x) {h : Handler σ} {s s' : σ} {a : α}
    (hrun : run h x s = (.ok a, s')) : P a := by
  induction hx generalizing s with
  | done ha =>
    cases (Prod.mk.inj hrun).1
    exact ha
  | failed f => cases (Prod.mk.inj hrun).1
  | ask _ ih => exact ih _ hrun

end Results

end RaceAlbum.Program
