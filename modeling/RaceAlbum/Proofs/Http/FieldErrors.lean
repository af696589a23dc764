import Mathlib.Data.List.Induction
import RaceAlbum.Http.Envelope
import RaceAlbum.Proofs.Number.Digits

/-!
# Messages gathered by field

Each message about a request has a place, and a place spells the name of a field (`Path.Spells`). Gathering the messages loses
none and adds none: every field has the messages whose places spell its name, in the order in which they came, and the fields
stand in the order in which their names first occurred (`gathered_by_field`).
-/

namespace RaceAlbum

/-! ## Names of fields -/

namespace Path

/-- The steps of a place with points between them. -/
def joined : Path → String
  | [] => ""
  | [step] => step.text
  | step :: rest => step.text ++ "." ++ joined rest

/-- The name that the steps inside a part of a request make: the root where nothing is left of them. -/
def named (steps : Path) : String := if steps.joined = "" then "_root" else steps.joined

/-- A place spells the name of a field. One step that is a part of the request is left out in front of it. -/
inductive Spells : Path → String → Prop where
  | inPart {part : String} {rest : Path} : part ∈ pathRoots → Spells (.member part :: rest) rest.named
  | elsewhere {path : Path} : (∀ part ∈ pathRoots, path.head? ≠ some (.member part)) → Spells path path.named

theorem intercalate_text (path : Path) : String.intercalate "." (path.map PathStep.text) = path.joined := by
  induction path with
  | nil => rfl
  | cons step rest ih =>
    cases rest with
    | nil => simp [joined]
    | cons next rest =>
      rw [joined, ← ih, List.map_cons, List.map_cons, String.intercalate_cons_cons]
      exact nofun

/-- The number of an index is no part of a request. -/
theorem index_text_notRoot (n : Int) : (PathStep.index n).text ∉ pathRoots := by
  intro hroot
  have hletter : (pathRoots.all fun part => part.toList.any fun c => !isDigit c && c != '-') = true := by decide
  obtain ⟨c, hc, hodd⟩ := List.any_eq_true.1 (List.all_eq_true.1 hletter _ hroot)
  obtain ⟨hdigit, hminus⟩ : isDigit c = false ∧ c ≠ '-' := by simpa using hodd
  simp only [PathStep.text, intText, String.toList_ofList, intDigits] at hc
  have hmem : c ∈ natDigits n.natAbs := by
    split at hc
    · exact (List.mem_cons.1 hc).resolve_left hminus
    · exact hc
  rw [isDigit_of_mem_natDigits hmem] at hdigit
  cases hdigit

theorem fieldName_cons (step : PathStep) (rest : Path) :
    fieldName (step :: rest) = if step.text ∈ pathRoots then rest.named else named (step :: rest) := by
  rw [named, named, ← intercalate_text, ← intercalate_text, fieldName]
  simp only [List.map_cons, List.contains_iff_mem]
  split <;> rfl

/-- Every place spells one name. -/
theorem spells_iff {path : Path} {name : String} : path.Spells name ↔ fieldName path = name := by
  constructor
  · rintro (⟨hpart⟩ | ⟨hnone⟩)
    · exact (fieldName_cons _ _).trans (if_pos hpart)
    · rcases path with _ | ⟨step, rest⟩
      · rfl
      · have hstep : step.text ∉ pathRoots := by
          cases step with
          | member part => exact fun hpart => hnone part hpart rfl
          | index n => exact index_text_notRoot n
        rw [fieldName_cons, if_neg hstep]
  · rintro rfl
    rcases path with _ | ⟨step, rest⟩
    · exact .elsewhere nofun
    · rw [fieldName_cons]
      split
      · rename_i hpart
        cases step with
        | member part => exact .inPart hpart
        | index n => exact absurd hpart (index_text_notRoot n)
      · rename_i hnone
        refine .elsewhere fun part hpart hhead => hnone ?_
        rw [Option.some.inj hhead]
        exact hpart

/-- Which name a place spells can be checked. -/
instance (path : Path) (name : String) : Decidable (path.Spells name) := decidable_of_iff _ spells_iff.symm

end Path

/-! ## Gathering -/

namespace FieldMessages

variable {messages : List (Path × String)}

/-- The names of the fields that there are messages about. -/
def names (fields : FieldMessages) : List String := fields.map Prod.fst

/-- The messages about a field. -/
def about (fields : FieldMessages) (name : String) : List String := (List.lookup name fields).getD []

/-- How many messages there are. -/
def count (fields : FieldMessages) : Nat := (fields.map fun field => field.2.length).sum

theorem about_cons (field : String) (messages : List String) (rest : FieldMessages) (name : String) :
    about ((field, messages) :: rest) name = if name = field then messages else rest.about name := by
  by_cases h : name = field
  · simp [about, h]
  · simp [about, List.lookup_cons, h, beq_false_of_ne]

/-- A message is added to its field, and the other fields are left as they are. -/
theorem about_add (fields : FieldMessages) (name message other : String) :
    (fields.add name message).about other = fields.about other ++ if other = name then [message] else [] := by
  induction fields with
  | nil =>
    rw [add, about_cons]
    rfl
  | cons field rest ih =>
    obtain ⟨first, before⟩ := field
    by_cases hfirst : first = name
    · rw [add, if_pos hfirst, about_cons, about_cons, hfirst]
      by_cases hother : other = name <;> simp [hother]
    · rw [add, if_neg hfirst, about_cons, about_cons, ih]
      by_cases hother : other = first
      · rw [if_pos hother, if_pos hother, if_neg (hother ▸ hfirst), List.append_nil]
      · rw [if_neg hother, if_neg hother]

/-- A field that there were no messages about comes last. -/
theorem names_add (fields : FieldMessages) (name message : String) :
    (fields.add name message).names = fields.names ++ if name ∈ fields.names then [] else [name] := by
  unfold names
  induction fields with
  | nil => rfl
  | cons field rest ih =>
    by_cases hname : field.1 = name
    · simp [add, hname]
    · have hmem : name ∈ (field :: rest).map Prod.fst ↔ name ∈ rest.map Prod.fst := by
        rw [List.map_cons, List.mem_cons, or_iff_right (Ne.symm hname)]
      simp only [add, if_neg hname, List.map_cons, ih, ← hmem, List.cons_append]

theorem count_add (fields : FieldMessages) (name message : String) :
    (fields.add name message).count = fields.count + 1 := by
  unfold count
  induction fields with
  | nil => rfl
  | cons field rest ih =>
    by_cases hname : field.1 = name
    · simp [add, hname]
      omega
    · simp_all [add]
      omega

/-- What one more message adds to those that were gathered. -/
theorem ofPlaces_append (messages : List (Path × String)) (message : Path × String) :
    ofPlaces (messages ++ [message]) = (ofPlaces messages).add (fieldName message.1) message.2 := by
  rw [ofPlaces, List.foldl_append]
  rfl

/-- A field has the messages whose places spell its name. -/
theorem about_ofPlaces (messages : List (Path × String)) (name : String) :
    (ofPlaces messages).about name = (messages.filter fun m => m.1.Spells name).map Prod.snd := by
  induction messages using List.reverseRecOn with
  | nil => rfl
  | append_singleton messages message ih =>
    rw [ofPlaces_append, about_add, ih, List.filter_append, List.map_append]
    by_cases hname : name = fieldName message.1
    · simp [Path.spells_iff, hname]
    · simp [Path.spells_iff, hname, Ne.symm hname]

/-- There is a field for each name that some place spells, and no other. -/
theorem mem_names_ofPlaces_iff {name : String} :
    name ∈ (ofPlaces messages).names ↔ ∃ m ∈ messages, m.1.Spells name := by
  induction messages using List.reverseRecOn with
  | nil => simp [ofPlaces, names]
  | append_singleton messages message ih =>
    have hadded : name ∈ (ofPlaces (messages ++ [message])).names ↔
        name ∈ (ofPlaces messages).names ∨ fieldName message.1 = name := by
      rw [ofPlaces_append, names_add, List.mem_append]
      split
      · rename_i hthere
        simp only [List.not_mem_nil, or_false]
        exact ⟨.inl, fun h => h.elim id fun heq => heq ▸ hthere⟩
      · rw [List.mem_singleton, eq_comm]
    rw [hadded, ih]
    simp [Path.spells_iff, or_and_right, exists_or]

/-- Fields stand in the order in which their names are first spelled. -/
theorem names_ofPlaces_pairwise (messages : List (Path × String)) :
    (ofPlaces messages).names.Pairwise fun a b =>
      messages.findIdx (fun m => m.1.Spells a) < messages.findIdx fun m => m.1.Spells b := by
  induction messages using List.reverseRecOn with
  | nil => exact .nil
  | append_singleton messages message ih =>
    -- a name that is there keeps its first place when a message comes after it
    have hfirst {a : String} (ha : a ∈ (ofPlaces messages).names) :
        (messages ++ [message]).findIdx (fun m => m.1.Spells a) = messages.findIdx fun m => m.1.Spells a := by
      rw [List.findIdx_append, if_pos]
      simpa using mem_names_ofPlaces_iff.1 ha
    have hold : (ofPlaces messages).names.Pairwise fun a b => (messages ++ [message]).findIdx (fun m => m.1.Spells a) <
        (messages ++ [message]).findIdx fun m => m.1.Spells b :=
      ih.imp_of_mem fun ha hb hlt => by rwa [hfirst ha, hfirst hb]
    rw [ofPlaces_append, names_add]
    split
    · rwa [List.append_nil]
    · rename_i hnew
      refine List.pairwise_append.2 ⟨hold, List.pairwise_singleton _ _, fun a ha b hb => ?_⟩
      rw [List.mem_singleton.1 hb, hfirst ha]
      have hlast : ¬∃ m ∈ messages, m.1.Spells (fieldName message.1) := fun h => hnew (mem_names_ofPlaces_iff.2 h)
      have hlt : messages.findIdx (fun m => m.1.Spells a) < messages.length :=
        List.findIdx_lt_length.2 (by simpa using mem_names_ofPlaces_iff.1 ha)
      rw [List.findIdx_append, if_neg (by simpa using hlast)]
      omega

theorem count_ofPlaces (messages : List (Path × String)) : (ofPlaces messages).count = messages.length := by
  induction messages using List.reverseRecOn with
  | nil => rfl
  | append_singleton messages message ih => rw [ofPlaces_append, count_add, ih, List.length_append, List.length_singleton]

/-- **Gathering loses nothing.** For every list of messages with their places, a field has exactly the messages whose places spell
its name, in the order in which they came and as often; there are no other fields; the fields stand in the order in which their
names are first spelled, each once; and there are as many messages as before. -/
theorem gathered_by_field (messages : List (Path × String)) :
    (∀ name, (ofPlaces messages).about name = (messages.filter fun m => m.1.Spells name).map Prod.snd) ∧
    (∀ name, name ∈ (ofPlaces messages).names ↔ ∃ m ∈ messages, m.1.Spells name) ∧
    ((ofPlaces messages).names.Pairwise fun a b =>
      messages.findIdx (fun m => m.1.Spells a) < messages.findIdx fun m => m.1.Spells b) ∧
    (ofPlaces messages).names.Nodup ∧ (ofPlaces messages).count = messages.length := by
  have hordered := names_ofPlaces_pairwise messages
  have hdistinct : (ofPlaces messages).names.Nodup := hordered.imp fun hlt heq => by simp [heq] at hlt
  exact ⟨about_ofPlaces messages, fun _ => mem_names_ofPlaces_iff, hordered, hdistinct, count_ofPlaces messages⟩

/-- Two places of one name, one of no name, and a part of the request that is left out once. -/
example : ofPlaces [([.member "body", .member "plates", .index 0], "a"), ([.member "query"], "b"),
    ([.member "plates", .member "0"], "c"), ([.member "body", .member "body"], "d")] =
    [("plates.0", ["a", "c"]), ("_root", ["b"]), ("body", ["d"])] := by decide +kernel

end FieldMessages

end RaceAlbum
