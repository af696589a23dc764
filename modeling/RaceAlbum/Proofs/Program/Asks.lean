import RaceAlbum.Program

/-!
# What programs ask

`Asks P x` says that every question of the program `x` has the property `P`, whatever it is answered. Where questions of
a kind keep a relation between the states of a handler, a run that asks no others keeps it (`Asks.run_rel`).
-/

namespace RaceAlbum.Program

variable {α β σ : Type} {P Q : Port → Prop}

/-- All questions of a program have a property. -/
inductive Asks (P : Port → Prop) : Program α → Prop where
  | done (a : α) : Asks P (.done a)
  | failed (f : Failure) : Asks P (.failed f)
  | ask {p : Port} {next : Except Failure p.Answer → Program α} :
      P p → (∀ r, Asks P (next r)) → Asks P (.ask p next)

namespace Asks

/-- Questions that have a property have every weaker one. -/
theorem mono {x : Program α} (hx : Asks P x) (hPQ : ∀ p, P p → Q p) : Asks Q x := by
  induction hx with
  | done a => exact .done a
  | failed f => exact .failed f
  | ask hp _ ih => exact .ask (hPQ _ hp) ih

/-- What two programs ask one after the other has a property if what each of them asks has it. -/
theorem bind {x : Program α} {k : α → Program β} (hx : Asks P x) (hk : ∀ a, Asks P (k a)) : Asks P (x >>= k) := by
  change Asks P (Program.bind x k)
  induction hx with
  | done a => exact hk a
  | failed f => exact .failed f
  | ask hp _ ih => exact .ask hp ih

/-- A program that gives a value asks nothing. -/
theorem pure (a : α) : Asks P (Pure.pure a : Program α) := .done a

/-- To go on from a value asks nothing more. -/
theorem map {f : α → β} {x : Program α} (hx : Asks P x) : Asks P (f <$> x) := hx.bind fun a => .done (f a)

/-- One question is all that a call asks. -/
theorem call {p : Port} (hp : P p) : Asks P (Program.call p) := by
  refine .ask hp fun r => ?_
  cases r with
  | ok a => exact .done a
  | error f => exact .failed f

/-- To look at how a program ends asks nothing more. -/
theorem attempt {x : Program α} (hx : Asks P x) : Asks P x.attempt := by
  induction hx with
  | done a => exact .done _
  | failed f => exact .done _
  | ask hp _ ih => exact .ask hp ih

/-- A result that is known asks nothing. -/
theorem ofExcept (r : Except Failure α) : Asks P (Program.ofExcept r) := by
  cases r with
  | ok a => exact .done a
  | error f => exact .failed f

/-- A rule is checked without a question. -/
theorem require (holds : Bool) (r : Rule) : Asks P (Program.require holds r) := by
  cases holds with
  | true => exact .done ()
  | false => exact .failed _

/-- What was looked for is there or not, without a question. -/
theorem found (entity : String) (id : Uuid) (a? : Option α) : Asks P (Program.found entity id a?) := by
  cases a? with
  | some a => exact .done a
  | none => exact .failed _

/-- What is done for each item of a list asks what is asked for one. -/
theorem forAll {f : α → Program β} (hf : ∀ a, Asks P (f a)) (as : List α) : Asks P (Program.forAll f as) := by
  induction as with
  | nil => exact .done []
  | cons a as ih => exact (hf a).bind fun b => ih.bind fun bs => .done (b :: bs)

/-- A moment is asked for by one question. -/
theorem readClock (h : P .readClock) : Asks P Program.readClock := (call h).bind fun _ => .done _

/-- So is an identifier. -/
theorem takeId (h : P .takeId) : Asks P Program.takeId := call h

/-- A relation between states that each answer keeps is kept by a run. -/
theorem run_rel {h : Handler σ} {R : σ → σ → Prop} (refl : ∀ s, R s s) (trans : ∀ {s t u}, R s t → R t u → R s u)
    {x : Program α} (hx : Asks P x) (hR : ∀ p s, P p → R s (h p s).2) (s : σ) : R s (run h x s).2 := by
  induction hx generalizing s with
  | done a => exact refl s
  | failed f => exact refl s
  | @ask p next hp _ ih => exact trans (hR p s hp) (ih _ _)

end Asks

end RaceAlbum.Program
