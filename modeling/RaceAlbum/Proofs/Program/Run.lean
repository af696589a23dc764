import RaceAlbum.Program

/-!
# Runs of programs

How a run goes through the parts of a program. `run_bind_cases` takes a run of two programs in a row apart: the first one
fails, or the second one runs from where the first one ended. The other statements say what the small programs of
`Program` do, so that no proof about a service has to open them.
-/

namespace RaceAlbum.Program

variable {α β σ : Type} {h : Handler σ} {s s' : σ}

/-- A run of two programs in a row goes on from the result of the first. -/
theorem run_bind (x : Program α) (k : α → Program β) (s : σ) :
    run h (x >>= k) s = match run h x s with
      | (.ok a, s') => run h (k a) s'
      | (.error f, s') => (.error f, s') := by
  change run h (Program.bind x k) s = _
  induction x generalizing s with
  | done a => rfl
  | failed f => rfl
  | ask p next ih => exact ih _ _

/-- A program that only gives back the result of another is that program. -/
theorem bind_done (x : Program α) : x >>= done = x := by
  change x.bind done = x
  induction x with
  | done a => rfl
  | failed f => rfl
  | ask p next ih => exact congrArg (ask p) (funext ih)

/-- Three programs in a row are one, whichever two are taken together first. -/
theorem bind_assoc {γ : Type} (x : Program α) (f : α → Program β) (g : β → Program γ) :
    x >>= f >>= g = x >>= fun a => f a >>= g := by
  change (x.bind f).bind g = x.bind fun a => (f a).bind g
  induction x with
  | done a => rfl
  | failed f => rfl
  | ask p next ih => exact congrArg (ask p) (funext ih)

instance : LawfulMonad Program := LawfulMonad.mk' Program (fun x => bind_done x) (fun _ _ => rfl) bind_assoc

/-- A run of two programs in a row whose first succeeds is a run of the second. -/
theorem run_bind_of_ok {x : Program α} {k : α → Program β} {a : α} (hx : run h x s = (.ok a, s')) :
    run h (x >>= k) s = run h (k a) s' := by
  rw [run_bind, hx]

/-- A run of two programs in a row whose first fails fails as that one does. -/
theorem run_bind_of_error {x : Program α} {k : α → Program β} {f : Failure} (hx : run h x s = (.error f, s')) :
    run h (x >>= k) s = (.error f, s') := by
  rw [run_bind, hx]

/-- A run of two programs in a row: the first one fails, or the second one runs from where the first one ended. -/
theorem run_bind_cases {x : Program α} {k : α → Program β} {r : Except Failure β}
    (hr : run h (x >>= k) s = (r, s')) :
    (∃ f, r = .error f ∧ run h x s = (.error f, s')) ∨
      ∃ a s₁, run h x s = (.ok a, s₁) ∧ run h (k a) s₁ = (r, s') := by
  rw [run_bind] at hr
  rcases hx : run h x s with ⟨f | a, s₁⟩
  · rw [hx] at hr
    obtain ⟨rfl, rfl⟩ := Prod.mk.inj hr
    exact .inl ⟨f, rfl, rfl⟩
  · rw [hx] at hr
    exact .inr ⟨a, s₁, rfl, hr⟩

/-- A run of two programs in a row that succeeds is a successful run of each. -/
theorem run_bind_ok {x : Program α} {k : α → Program β} {b : β} (hr : run h (x >>= k) s = (.ok b, s')) :
    ∃ a s₁, run h x s = (.ok a, s₁) ∧ run h (k a) s₁ = (.ok b, s') := by
  rcases run_bind_cases hr with ⟨f, hf, -⟩ | h
  · cases hf
  · exact h

/-- Asking one question is answering it. -/
@[simp] theorem run_call (p : Port) (s : σ) : run h (call p) s = h p s := by
  rcases hr : h p s with ⟨f | a, s'⟩
  · simp only [call, run, hr]
  · simp only [call, run, hr]

/-- A program with its failure as a result never fails and changes what the program changes. -/
theorem run_attempt (x : Program α) (s : σ) : run h x.attempt s = (.ok (run h x s).1, (run h x s).2) := by
  induction x generalizing s with
  | done a => rfl
  | failed f => rfl
  | ask p next ih => exact ih _ _

/-- What follows a program with its failure as a result goes on from the one or the other. -/
theorem run_attempt_bind (x : Program α) (k : Except Failure α → Program β) (s : σ) :
    run h (x.attempt >>= k) s = run h (k (run h x s).1) (run h x s).2 := by
  rw [run_bind, run_attempt]

theorem run_attempt_bind_of {x : Program α} {k : Except Failure α → Program β} {s s' : σ} {r : Except Failure α}
    (hx : run h x s = (r, s')) : run h (x.attempt >>= k) s = run h (k r) s' := by
  rw [run_attempt_bind, hx]

/-- A rule that is asked for holds where the program goes on. -/
theorem run_require_bind_ok {holds : Bool} {r : Rule} {k : Unit → Program β} {b : β}
    (hr : run h (require holds r >>= k) s = (.ok b, s')) : holds = true ∧ run h (k ()) s = (.ok b, s') := by
  cases holds with
  | true => exact ⟨rfl, hr⟩
  | false => cases (Prod.mk.inj hr).1

/-- A program goes on where a rule that is asked for holds. -/
theorem require_bind_of {holds : Bool} {r : Rule} {k : Unit → Program β} (h : holds = true) :
    (require holds r >>= k) = k () := by
  rw [h]
  rfl

/-- A program ends where a rule that is asked for does not hold. -/
theorem require_bind_of_not {holds : Bool} {r : Rule} {k : Unit → Program β} (h : holds = false) :
    (require holds r >>= k) = failed (.ofRule r) := by
  rw [h]
  rfl

/-- What is looked for is there where the program goes on. -/
theorem run_found_ok {entity : String} {id : Uuid} {a? : Option α} {a : α}
    (hr : run h (found entity id a?) s = (.ok a, s')) : a? = some a ∧ s' = s := by
  cases a? with
  | none => cases (Prod.mk.inj hr).1
  | some b =>
    obtain ⟨hb, rfl⟩ := Prod.mk.inj hr
    cases hb
    exact ⟨rfl, rfl⟩

/-- A result or a failure is a result where the program goes on. -/
theorem run_ofExcept_bind_ok {r : Except Failure α} {k : α → Program β} {b : β}
    (hr : run h (ofExcept r >>= k) s = (.ok b, s')) : ∃ a, r = .ok a ∧ run h (k a) s = (.ok b, s') := by
  cases r with
  | ok a => exact ⟨a, rfl, hr⟩
  | error f => cases (Prod.mk.inj hr).1

/-- A changed result comes from a result. -/
theorem run_map_ok {f : α → β} {x : Program α} {b : β} (hr : run h (f <$> x) s = (.ok b, s')) :
    ∃ a, run h x s = (.ok a, s') ∧ b = f a := by
  obtain ⟨a, s₁, hx, hb⟩ := run_bind_ok hr
  obtain ⟨hb, rfl⟩ := Prod.mk.inj hb
  cases hb
  exact ⟨a, hx, rfl⟩

/-- A run through a list that succeeds is a successful run of its first item and one through the rest. -/
theorem run_forAll_cons_ok {f : α → Program β} {a : α} {as : List α} {bs : List β}
    (hr : run h (forAll f (a :: as)) s = (.ok bs, s')) :
    ∃ b bs' s₁, run h (f a) s = (.ok b, s₁) ∧ run h (forAll f as) s₁ = (.ok bs', s') ∧ bs = b :: bs' := by
  obtain ⟨b, s₁, hb, hr⟩ := run_bind_ok hr
  obtain ⟨bs', s₂, hbs, hr⟩ := run_bind_ok hr
  obtain ⟨hr, rfl⟩ := Prod.mk.inj hr
  cases hr
  exact ⟨b, bs', s₁, hb, hbs, rfl⟩

/-- A run through a list whose first item succeeds is a run through the rest, with the first result before the others. -/
theorem run_forAll_cons {f : α → Program β} {a : α} {as : List α} {b : β} (ha : run h (f a) s = (.ok b, s')) :
    run h (forAll f (a :: as)) s = ((run h (forAll f as) s').1.map (List.cons b), (run h (forAll f as) s').2) := by
  change run h (f a >>= fun b => forAll f as >>= fun bs => pure (b :: bs)) s = _
  rw [run_bind_of_ok ha, run_bind]
  rcases run h (forAll f as) s' with ⟨g | bs, s''⟩
  · rfl
  · rfl

/-- A run through a list fails as the first item that fails, and goes no further. -/
theorem run_forAll_of_error {f : α → Program β} {before after : List α} {a : α} {bs : List β} {s₁ : σ} {g : Failure}
    (hbefore : run h (forAll f before) s = (.ok bs, s₁)) (ha : run h (f a) s₁ = (.error g, s')) :
    run h (forAll f (before ++ a :: after)) s = (.error g, s') := by
  induction before generalizing s bs with
  | nil =>
    obtain ⟨-, rfl⟩ := Prod.mk.inj hbefore
    exact run_bind_of_error ha
  | cons b before ih =>
    obtain ⟨c, bs', s₂, hb, hrest, -⟩ := run_forAll_cons_ok hbefore
    exact (run_bind_of_ok hb).trans (run_bind_of_error (ih hrest))

end RaceAlbum.Program
