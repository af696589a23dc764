import Mathlib.Data.List.TakeWhile
import RaceAlbum.Proofs.Storage.Objects
import RaceAlbum.Proofs.Storage.Places

/-!
# Where the keys of photos lead

The key of a photo is four names and what a slash in the extension may add to them. Since an extension has no point in it,
no step of the key goes up: the key leads to a path below the root whose fourth name begins with the fresh identifier
(`ofKey?_photoKey`).
-/

namespace RaceAlbum

/-! ## Extensions -/

/-- A character is its own lower case, or its lower case is a letter. -/
theorem simpleLower_cases (c : Char) : simpleLower c = c ∨ 97 ≤ (simpleLower c).toNat := by
  have hruns : ∀ run ∈ lowerRuns, 97 ≤ run.2.2.2 ∧ (run.2.2.2 + (run.2.1 - run.1) < 0xD800 ∨
      0xDFFF < run.2.2.2 ∧ run.2.2.2 + (run.2.1 - run.1) < 0x110000) := by decide +kernel
  unfold simpleLower
  split
  · rename_i first last step target hfind
    obtain ⟨hletter, hvalid⟩ := hruns _ (List.mem_of_find?_eq_some hfind)
    have hrun := List.find?_some hfind
    simp only [Bool.and_eq_true, decide_eq_true_eq] at hrun hletter hvalid
    have hchar : (target + (c.toNat - first)).isValidChar := by
      unfold Nat.isValidChar
      omega
    have hself : (Char.ofNat (target + (c.toNat - first))).toNat = target + (c.toNat - first) := by
      rw [Char.ofNat, dif_pos hchar]
      rfl
    omega
  · exact .inl rfl

/-- A text in small letters has no characters that come before these but its own. -/
theorem not_mem_lowerAfter {before cs : List Char} {x : Char} (hx : x.toNat < 97) (h : x ∉ cs) :
    x ∉ lowerAfter before cs := by
  have hletter {c : Char} (hc : 97 ≤ c.toNat) : x ≠ c := by
    rintro rfl
    omega
  induction cs generalizing before with
  | nil => exact List.not_mem_nil
  | cons c cs ih =>
    rw [List.mem_cons, not_or] at h
    obtain ⟨hc, hcs⟩ := h
    rw [lowerAfter, List.mem_append]
    rintro (hlow | hrest)
    · split at hlow
      · split at hlow
        · exact hletter (by decide) (List.mem_singleton.1 hlow)
        · exact hletter (by decide) (List.mem_singleton.1 hlow)
      · split at hlow
        · rw [List.mem_pair] at hlow
          rcases hlow with hlow | hlow
          · exact hletter (by decide) hlow
          · exact hletter (by decide) hlow
        · rw [List.mem_singleton] at hlow
          rcases simpleLower_cases c with hself | hc'
          · exact hc (hlow.trans hself)
          · exact hletter hc' hlow
    · exact ih hcs hrest

/-- No character is lost where a text is written in small letters. -/
theorem lowerAfter_ne_nil {before cs : List Char} (h : cs ≠ []) : lowerAfter before cs ≠ [] := by
  obtain ⟨c, cs, rfl⟩ := List.exists_cons_of_ne_nil h
  rw [lowerAfter]
  refine List.append_ne_nil_of_left_ne_nil ?_ _
  split
  · exact List.cons_ne_nil _ _
  · split
    · exact List.cons_ne_nil _ _
    · exact List.cons_ne_nil _ _

/-- An extension is what follows the last point of a file name, in small letters, or the one of a name that has none. -/
theorem extensionOf_cases (filename : String) :
    extensionOf filename = defaultExtension ∨
      ∃ ext : List Char, ext ≠ [] ∧ '.' ∉ ext ∧ ext ⊆ filename.toList ∧ extensionOf filename = lowerCase ext := by
  unfold extensionOf
  dsimp only
  split
  · rename_i hext
    rw [Bool.and_eq_true, Bool.not_eq_true', List.isEmpty_eq_false_iff] at hext
    refine .inr ⟨_, hext.2, fun hmem => ?_, fun c hc => ?_, rfl⟩
    · have hpoint := List.mem_takeWhile_imp (List.mem_reverse.1 hmem)
      simp at hpoint
    · exact List.mem_reverse.1 (List.takeWhile_subset _ (List.mem_reverse.1 hc))
  · exact .inl rfl

theorem extensionOf_ne_nil (filename : String) : extensionOf filename ≠ [] := by
  rcases extensionOf_cases filename with hext | ⟨ext, hne, -, -, hext⟩
  · rw [hext]
    decide
  · rw [hext]
    exact lowerAfter_ne_nil hne

/-- An extension begins after the last point. -/
theorem not_mem_extensionOf (filename : String) : '.' ∉ extensionOf filename := by
  rcases extensionOf_cases filename with hext | ⟨ext, -, hpoint, -, hext⟩
  · rw [hext]
    decide
  · rw [hext]
    exact not_mem_lowerAfter (by decide) hpoint

/-- An extension has no character that comes before the small letters but those of the file name. -/
theorem not_mem_extensionOf_of {filename : String} {x : Char} (hx : x.toNat < 97) (h : x ∉ filename.toList) :
    x ∉ extensionOf filename := by
  rcases extensionOf_cases filename with hext | ⟨ext, -, -, hsub, hext⟩
  · have hdefault : ∀ c ∈ defaultExtension, 97 ≤ c.toNat := by simp [defaultExtension]
    rw [hext]
    exact fun hmem => absurd (hdefault x hmem) (Nat.not_le.2 hx)
  · rw [hext]
    exact not_mem_lowerAfter hx fun hmem => h (hsub hmem)

/-! ## Identifiers as names -/

theorem not_mem_hexDigits {c : Char} (hc : ∀ i < 16, hexDigit i ≠ c) (k n : Nat) : c ∉ hexDigits k n := by
  induction k generalizing n with
  | zero => exact List.not_mem_nil
  | succ k ih =>
    have hdigit : hexDigit n ≠ c := by
      have hmod : hexDigit (n % 16) = hexDigit n := by simp [hexDigit]
      rw [← hmod]
      exact hc _ (Nat.mod_lt _ (by decide))
    rw [hexDigits, List.mem_append, List.mem_singleton]
    rintro (hmem | rfl)
    · exact ih _ hmem
    · exact hdigit rfl

/-- An identifier is written in hexadecimal digits and hyphens. -/
theorem Uuid.not_mem_chars (u : Uuid) {c : Char} (hc : ∀ i < 16, hexDigit i ≠ c) (hhyphen : c ≠ '-') : c ∉ u.chars := by
  have hdigits : c ∉ u.digits := not_mem_hexDigits hc 32 u.value
  have htake (n k : Nat) : c ∉ (u.digits.drop n).take k := fun h =>
    hdigits (List.mem_of_mem_drop (List.mem_of_mem_take h))
  have hdrop : c ∉ u.digits.drop 20 := fun h => hdigits (List.mem_of_mem_drop h)
  have hfirst := htake 0 8
  rw [List.drop_zero] at hfirst
  simp [chars, hfirst, htake, hdrop, hhyphen]

/-- No identifier has a slash in it. -/
theorem Uuid.noSlash (u : Uuid) : '/' ∉ u.chars := u.not_mem_chars (by decide) (by decide)

/-- A text that begins with an identifier and has no slash in it is a name. -/
theorem isName_of_uuid (u : Uuid) (rest : List Char) (h : '/' ∉ rest) : IsName (String.ofList (u.chars ++ rest)) := by
  have hlength : 36 ≤ (u.chars ++ rest).length := by
    rw [List.length_append, Uuid.length_chars]
    exact Nat.le_add_right _ _
  have hne {s : String} (hs : s.toList.length < 36) : String.ofList (u.chars ++ rest) ≠ s := by
    rintro rfl
    rw [String.toList_ofList] at hs
    exact absurd hlength (Nat.not_le.2 hs)
  refine ⟨hne (by decide), hne (by decide), hne (by decide), ?_⟩
  rw [String.toList_ofList, List.mem_append]
  rintro (hmem | hmem)
  · exact u.noSlash hmem
  · exact h hmem

/-! ## Keys -/

/-- The first step of two texts, the first of which has no slash in it, begins with the first. -/
theorem splitOn_append {cs first : List Char} {steps : List (List Char)} (h : '/' ∉ cs) {rest : List Char}
    (hrest : rest.splitOn '/' = first :: steps) : (cs ++ rest).splitOn '/' = (cs ++ first) :: steps := by
  induction cs with
  | nil => exact hrest
  | cons c cs ih =>
    rw [List.mem_cons, not_or] at h
    obtain ⟨hc, hcs⟩ := h
    rw [List.cons_append, List.splitOn_cons_eq_if_modifyHead, if_neg (mt eq_of_beq (Ne.symm hc)), ih hcs]
    rfl

/-- The steps of the key of a photo. -/
theorem keySteps_photoKey (eventId mark : Uuid) (filename : String) :
    ∃ first steps, (extensionOf filename).splitOn '/' = first :: steps ∧
      keySteps (photoKey eventId mark filename) =
        "events" :: eventId.text :: "photos" :: String.ofList (mark.chars ++ '.' :: first) :: steps.map String.ofList := by
  obtain ⟨first, steps, hsplit⟩ := List.exists_cons_of_ne_nil (List.splitOn_ne_nil '/' (extensionOf filename))
  have hlast : '/' ∉ mark.chars ++ ['.'] := by
    rw [List.mem_append]
    rintro (hmem | hmem)
    · exact mark.noSlash hmem
    · exact absurd hmem (by decide)
  have hchars : (photoKey eventId mark filename).toList = "events".toList ++ '/' :: (eventId.chars ++
      '/' :: ("photos".toList ++ '/' :: ((mark.chars ++ ['.']) ++ extensionOf filename))) := by
    rw [photoKey_toList]
    simp
  refine ⟨first, steps, hsplit, ?_⟩
  rw [keySteps, hchars, List.splitOn_append_cons_self_of_not_mem (by decide),
    List.splitOn_append_cons_self_of_not_mem eventId.noSlash, List.splitOn_append_cons_self_of_not_mem (by decide),
    splitOn_append hlast hsplit]
  simp [Uuid.text]

/-- Steps without a point are names or stay where they are. -/
theorem takeSteps_noPoint (place : List String) {steps : List (List Char)} (h : ∀ step ∈ steps, '.' ∉ step) :
    ∃ names, (steps.map String.ofList).foldl takeStep place = names ++ place := by
  induction steps generalizing place with
  | nil => exact ⟨[], rfl⟩
  | cons step steps ih =>
    obtain ⟨hstep, hsteps⟩ := List.forall_mem_cons.1 h
    rw [List.map_cons, List.foldl_cons]
    obtain ⟨names, hnames⟩ := ih (takeStep place (String.ofList step)) hsteps
    have hup : String.ofList step ≠ ".." := by
      intro heq
      have hpoint : '.' ∈ (String.ofList step).toList := by
        rw [heq]
        decide
      rw [String.toList_ofList] at hpoint
      exact hstep hpoint
    rw [hnames, takeStep, if_neg hup]
    split
    · exact ⟨names, rfl⟩
    · exact ⟨names ++ [String.ofList step], by rw [List.append_assoc]; rfl⟩

/-- The folder of the photos of an event. -/
def photosFolder (eventId : Uuid) : FilePath := ["events", eventId.text, "photos"]

/-- The key of a photo leads to a path below the root: to the folder of the photos of its event, and there to a name that
begins with the fresh identifier, or further down from it. -/
theorem ofKey?_photoKey (root : List String) (eventId mark : Uuid) (filename : String) :
    ∃ first names, FilePath.ofKey? root (photoKey eventId mark filename) =
      some (photosFolder eventId ++ String.ofList (mark.chars ++ '.' :: first) :: names) := by
  obtain ⟨first, steps, hsplit, hsteps⟩ := keySteps_photoKey eventId mark filename
  have hpart : ∀ part ∈ first :: steps, '/' ∉ part ∧ '.' ∉ part := by
    rw [← hsplit]
    exact fun part hpart => ⟨not_mem_of_mem_splitOn hpart, fun hpoint =>
      not_mem_extensionOf filename (mem_of_mem_splitOn hpart hpoint)⟩
  have hslash : '/' ∉ '.' :: first := by
    rw [List.mem_cons]
    rintro (hmem | hmem)
    · exact absurd hmem (by decide)
    · exact (hpart first List.mem_cons_self).1 hmem
  have hevent : IsName eventId.text := by
    have hname := isName_of_uuid eventId [] List.not_mem_nil
    rwa [List.append_nil] at hname
  have hnames : ∀ name ∈ ["events", eventId.text, "photos", String.ofList (mark.chars ++ '.' :: first)], IsName name := by
    simp only [List.forall_mem_cons]
    exact ⟨by decide, hevent, by decide, isName_of_uuid mark _ hslash, nofun⟩
  have hhead : (photoKey eventId mark filename).toList.head? ≠ some '/' := by
    rw [photoKey_toList]
    simp
  obtain ⟨names, htaken⟩ := takeSteps_noPoint
    (String.ofList (mark.chars ++ '.' :: first) :: "photos" :: eventId.text :: "events" :: root)
    fun step hstep => (hpart step (List.mem_cons_of_mem _ hstep)).2
  have hplace : ["events", eventId.text, "photos", String.ofList (mark.chars ++ '.' :: first)].foldl takeStep root =
      String.ofList (mark.chars ++ '.' :: first) :: "photos" :: eventId.text :: "events" :: root := by
    rw [takeSteps_names hnames]
    simp only [List.reverse_cons, List.reverse_nil, List.nil_append, List.cons_append]
  refine ⟨first, names.reverse, ?_⟩
  rw [FilePath.ofKey?_eq_some_iff, keyPlace, if_neg hhead, hsteps]
  simp only [List.foldl_cons, List.foldl_nil] at hplace ⊢
  rw [hplace, htaken]
  simp only [photosFolder, List.reverse_cons, List.reverse_reverse, List.append_assoc, List.cons_append, List.nil_append]

/-- A path that lies on the way to another one, or is the other one, has its fresh identifier. -/
theorem mark_eq_of_onWay {eventId eventId' mark mark' : Uuid} {rest rest' : List Char} {names names' : List String}
    (h : photosFolder eventId ++ String.ofList (mark.chars ++ rest) :: names <+:
      photosFolder eventId' ++ String.ofList (mark'.chars ++ rest') :: names') : mark = mark' := by
  simp only [photosFolder, List.cons_append, List.nil_append, List.cons_prefix_cons, String.ofList_inj] at h
  have hchars := List.append_inj h.2.2.2.1 (by rw [Uuid.length_chars, Uuid.length_chars])
  exact Uuid.chars_inj hchars.1

/-- Keys of photos that lead to one path have the same fresh identifier. -/
theorem mark_eq_of_ofKey? {root : List String} {eventId eventId' mark mark' : Uuid} {filename filename' : String}
    {p : FilePath} (h : FilePath.ofKey? root (photoKey eventId mark filename) = some p)
    (h' : FilePath.ofKey? root (photoKey eventId' mark' filename') = some p) : mark = mark' := by
  obtain ⟨first, names, hp⟩ := ofKey?_photoKey root eventId mark filename
  obtain ⟨first', names', hp'⟩ := ofKey?_photoKey root eventId' mark' filename'
  rw [h, Option.some.injEq] at hp
  rw [h', hp, Option.some.injEq] at hp'
  exact mark_eq_of_onWay ⟨[], (List.append_nil _).trans hp'⟩

end RaceAlbum
