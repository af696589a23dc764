import Mathlib.Data.List.TakeWhile
import RaceAlbum.Proofs.Calendar.Instants
import RaceAlbum.Proofs.Exif.Directories
import RaceAlbum.Proofs.Number.Digits

/-!
# Capture times as they are spelled

A capture time is spelled with four digits of a year and one or two digits of each other field (`CaptureTime.Spelling`). Each
spelling of a moment is read as the moment, and nothing else is read (`CaptureTime.whole?_eq_some_iff`), whatever fillers stand
around it. So the small picture tells a moment just where its used text spells one.
-/

namespace RaceAlbum

namespace CaptureTime

/-! ## Spellings -/

/-- One or two digits. -/
structure IsShort (ds : List Char) : Prop where
  ne_nil : ds ≠ []
  length_le : ds.length ≤ 2
  isDigit_of_mem : ∀ d ∈ ds, isDigit d = true

theorem isShort_iff {ds : List Char} : IsShort ds ↔ ds ≠ [] ∧ ds.length ≤ 2 ∧ ds.all isDigit = true :=
  ⟨fun ⟨hne, hlength, hdigits⟩ => ⟨hne, hlength, List.all_eq_true.2 hdigits⟩,
    fun ⟨hne, hlength, hdigits⟩ => ⟨hne, hlength, List.all_eq_true.1 hdigits⟩⟩

/-- Whether there are one or two digits can be checked. -/
instance (ds : List Char) : Decidable (IsShort ds) := decidable_of_iff' _ isShort_iff

/-- The fields of a capture time as they are written, and the white space between the date and the time. -/
structure Spelling where
  year : List Char
  month : List Char
  day : List Char
  blanks : List Char
  hour : List Char
  minute : List Char
  second : List Char
  length_year : year.length = 4
  year_digits : ∀ d ∈ year, isDigit d = true
  month_short : IsShort month
  day_short : IsShort day
  blanks_ne_nil : blanks ≠ []
  blanks_blank : ∀ c ∈ blanks, isBlankOrSeparator c = true
  hour_short : IsShort hour
  minute_short : IsShort minute
  second_short : IsShort second

namespace Spelling

/-- The characters of a spelling. -/
def chars (s : Spelling) : List Char :=
  s.year ++ ':' :: (s.month ++ ':' :: (s.day ++ (s.blanks ++ (s.hour ++ ':' :: (s.minute ++ ':' :: s.second)))))

/-- The moment that a spelling names, to the second. -/
structure Names (s : Spelling) (m : Moment) : Prop where
  year : m.date.year = ofDigits s.year
  month : m.date.month = ofDigits s.month
  day : m.date.day = ofDigits s.day
  hour : m.time.hour = ofDigits s.hour
  minute : m.time.minute = ofDigits s.minute
  second : m.time.second = ofDigits s.second
  micro : m.time.micro = 0

end Spelling

/-- A text tells a moment: it spells it, with nothing but fillers around. -/
def Tells (cs : List Char) (m : Moment) : Prop :=
  ∃ (front back : List Char) (s : Spelling), cs = front ++ s.chars ++ back ∧ (∀ c ∈ front ++ back, isFiller c = true) ∧
    s.Names m

/-! ## Reading the fields -/

variable {cs ds front rest : List Char} {n limit : Nat}

/-- A run in front of a text ends where the first character is none of it. -/
theorem span_eq_iff {p : Char → Bool} : cs.span p = (front, rest) ↔
    cs = front ++ rest ∧ (∀ c ∈ front, p c = true) ∧ ∀ c ∈ rest.head?, p c = false := by
  rw [List.span_eq_takeWhile_dropWhile]
  constructor
  · intro h
    obtain ⟨rfl, rfl⟩ := Prod.mk.inj h
    refine ⟨List.takeWhile_append_dropWhile.symm, fun c hc => List.mem_takeWhile_imp hc, fun c hc => ?_⟩
    have hnot := List.head?_dropWhile_not p cs
    rw [hc] at hnot
    simpa using hnot
  · rintro ⟨rfl, hfront, hrest⟩
    rw [List.takeWhile_append_of_pos hfront, List.dropWhile_append_of_pos hfront]
    cases rest with
    | nil => simp
    | cons c rest =>
      have hc : ¬p c = true := Bool.not_eq_true _ ▸ hrest c rfl
      rw [List.takeWhile_cons_of_neg hc, List.dropWhile_cons_of_neg hc, List.append_nil]

theorem splitColon?_eq_some_iff : splitColon? cs = some (front, rest) ↔ cs = front ++ ':' :: rest ∧ ':' ∉ front := by
  have hspan : splitColon? cs = some (front, rest) ↔ cs.span (· != ':') = (front, ':' :: rest) := by
    unfold splitColon?
    split
    · rename_i hcs
      rw [hcs]
      simp
    · rename_i hnone
      exact ⟨nofun, fun h => absurd h (hnone _ _)⟩
  have hnot : (∀ c ∈ front, (c != ':') = true) ↔ ':' ∉ front := by
    simp only [bne_iff_ne]
    exact ⟨fun h hmem => h _ hmem rfl, fun h c hc heq => h (heq ▸ hc)⟩
  rw [hspan, span_eq_iff, hnot]
  simp

theorem short?_eq_some_iff : short? limit ds = some n ↔ IsShort ds ∧ ofDigits ds ≤ limit ∧ ofDigits ds = n := by
  have hshort : (!ds.isEmpty && ds.length ≤ 2 && ds.all isDigit && ofDigits ds ≤ limit) = true ↔
      IsShort ds ∧ ofDigits ds ≤ limit := by
    simp [isShort_iff, and_assoc]
  unfold short?
  split
  · rename_i h
    simp [hshort.1 h]
  · rename_i h
    refine ⟨nofun, fun ⟨hds, hle, _⟩ => absurd (hshort.2 ⟨hds, hle⟩) h⟩

theorem year?_eq_some_iff : year? ds = some n ↔ ds.length = 4 ∧ (∀ d ∈ ds, isDigit d = true) ∧ ofDigits ds = n := by
  unfold year?
  split
  · rename_i h
    simp_all
  · rename_i h
    simp_all

/-- A day that no space stands in front of is read as all its digits. -/
theorem day?_eq_some_iff (hcs : cs.head? ≠ some ' ') : day? cs = some (n, rest) ↔
    ∃ ds, cs = ds ++ rest ∧ IsShort ds ∧ (∀ c ∈ rest.head?, isDigit c = false) ∧ ofDigits ds ≤ 31 ∧ ofDigits ds = n := by
  have hday : day? cs = (short? 31 (spanDigits cs).1).map fun d => (d, (spanDigits cs).2) := by
    unfold day?
    split
    · exact absurd rfl hcs
    · rfl
  rw [hday, Option.map_eq_some_iff]
  constructor
  · rintro ⟨d, hshort, hd⟩
    obtain ⟨rfl, rfl⟩ := Prod.mk.inj hd
    obtain ⟨hsplit, -, hrest⟩ := span_eq_iff.1 (Eq.refl (spanDigits cs))
    obtain ⟨hds, hle, heq⟩ := short?_eq_some_iff.1 hshort
    exact ⟨_, hsplit, hds, hrest, hle, heq⟩
  · rintro ⟨ds, rfl, hds, hrest, hle, heq⟩
    rw [spanDigits_append hds.isDigit_of_mem hrest]
    exact ⟨n, short?_eq_some_iff.2 ⟨hds, hle, heq⟩, rfl⟩

theorem blanks?_eq_some_iff : blanks? cs = some rest ↔ ∃ blanks, cs = blanks ++ rest ∧ blanks ≠ [] ∧
    (∀ c ∈ blanks, isBlankOrSeparator c = true) ∧ ∀ c ∈ rest.head?, isBlankOrSeparator c = false := by
  constructor
  · intro h
    unfold blanks? at h
    dsimp only at h
    split at h
    · cases h
    · rename_i hempty
      obtain rfl := Option.some.inj h
      obtain ⟨hsplit, hblanks, hrest⟩ := span_eq_iff.1 (Eq.refl (cs.span isBlankOrSeparator))
      exact ⟨_, hsplit, fun hnil => hempty (List.isEmpty_iff.2 hnil), hblanks, hrest⟩
  · rintro ⟨blanks, hsplit, hne, hblanks, hrest⟩
    have hspan := span_eq_iff.2 ⟨hsplit, hblanks, hrest⟩
    rw [blanks?, hspan]
    dsimp only
    rw [if_neg (by simpa using hne)]

theorem isShort_paddedDigits (n : Nat) : IsShort (paddedDigits 2 n) :=
  ⟨fun hnil => absurd (length_paddedDigits 2 n) (by simp [hnil]), by simp, fun _ => isDigit_of_mem_paddedDigits⟩

/-- No digit is a colon or white space. -/
theorem ne_of_isDigit {c : Char} (h : isDigit c = true) : c ≠ ':' ∧ isBlankOrSeparator c = false :=
  of_isDigit (fun c => c ≠ ':' ∧ isBlankOrSeparator c = false) (by decide) h

theorem not_mem_colon (h : ∀ d ∈ ds, isDigit d = true) : ':' ∉ ds := fun hmem => (ne_of_isDigit (h _ hmem)).1 rfl

/-- A field begins with a digit. -/
theorem IsShort.head?_isDigit (h : IsShort ds) (rest : List Char) : ∀ c ∈ (ds ++ rest).head?, isDigit c = true := by
  cases ds with
  | nil => exact absurd rfl h.ne_nil
  | cons d ds =>
    intro c hc
    obtain rfl := Option.some.inj hc
    exact h.isDigit_of_mem _ List.mem_cons_self

/-- The moment of a spelling is made of its fields. -/
theorem Spelling.Names.eq_made {s : Spelling} {m : Moment} (h : s.Names m) :
    Date.of? (ofDigits s.year) (ofDigits s.month) (ofDigits s.day) = some m.date ∧
      TimeOfDay.ofParts (ofDigits s.hour) (ofDigits s.minute) (ofDigits s.second) 0 = m.time := by
  rw [← h.year, ← h.month, ← h.day, ← h.hour, ← h.minute, ← h.second, ← h.micro]
  exact ⟨dif_pos m.date.valid, m.time.ofParts_parts⟩

/-- Fields in their bounds name what is made of them. -/
theorem Spelling.names_made {s : Spelling} {d : Date} (hhour : ofDigits s.hour ≤ 23) (hminute : ofDigits s.minute ≤ 59)
    (hsecond : ofDigits s.second ≤ 59) (hd : Date.of? (ofDigits s.year) (ofDigits s.month) (ofDigits s.day) = some d) :
    s.Names ⟨d, .ofParts (ofDigits s.hour) (ofDigits s.minute) (ofDigits s.second) 0⟩ := by
  obtain ⟨hyear, hmonth, hday⟩ := Date.of?_eq_some hd
  obtain ⟨hhours, hminutes, hseconds, hmicros⟩ := TimeOfDay.parts_ofParts (Nat.lt_succ_of_le hhour)
    (Nat.lt_succ_of_le hminute) (Nat.lt_succ_of_le hsecond) (by decide : 0 < 1000000)
  exact ⟨hyear, hmonth, hday, hhours, hminutes, hseconds, hmicros⟩

/-- Every spelling of a moment is read as the moment. -/
theorem Spelling.Names.read {s : Spelling} {m : Moment} (h : s.Names m) : whole? s.chars = some m := by
  obtain ⟨hdate, htime⟩ := h.eq_made
  obtain ⟨hhourLt, hminuteLt, hsecondLt, -⟩ := m.time.parts_lt
  have hyear := splitColon?_eq_some_iff.2 ⟨Eq.refl s.chars, not_mem_colon s.year_digits⟩
  have hyearValue := year?_eq_some_iff.2 ⟨s.length_year, s.year_digits, rfl⟩
  have hmonth := splitColon?_eq_some_iff.2 ⟨Eq.refl (s.month ++ ':' :: (s.day ++ (s.blanks ++ (s.hour ++ ':' ::
    (s.minute ++ ':' :: s.second))))), not_mem_colon s.month_short.isDigit_of_mem⟩
  have hmonthValue : short? 12 s.month = some (ofDigits s.month) :=
    short?_eq_some_iff.2 ⟨s.month_short, h.month ▸ m.date.valid.month_le, rfl⟩
  have hday : day? (s.day ++ (s.blanks ++ (s.hour ++ ':' :: (s.minute ++ ':' :: s.second)))) =
      some (ofDigits s.day, s.blanks ++ (s.hour ++ ':' :: (s.minute ++ ':' :: s.second))) := by
    refine (day?_eq_some_iff fun hhead => ?_).2 ⟨s.day, rfl, s.day_short, fun c hc => ?_, ?_, rfl⟩
    · exact absurd (s.day_short.head?_isDigit _ _ hhead) (by decide)
    -- the digits of the day end where the white space begins
    · cases hblanks : s.blanks with
      | nil => exact absurd hblanks s.blanks_ne_nil
      | cons b bs =>
        rw [hblanks] at hc
        obtain rfl := Option.some.inj hc
        refine Bool.eq_false_iff.2 fun hdigit => ?_
        have hblank := s.blanks_blank b (hblanks ▸ List.mem_cons_self)
        rw [(ne_of_isDigit hdigit).2] at hblank
        cases hblank
    · exact h.day ▸ Nat.le_trans m.date.valid.day_le (Date.monthLength_le _ _)
  have hblanks := blanks?_eq_some_iff.2 ⟨s.blanks, rfl, s.blanks_ne_nil, s.blanks_blank, fun c hc =>
    (ne_of_isDigit (s.hour_short.head?_isDigit (':' :: (s.minute ++ ':' :: s.second)) c hc)).2⟩
  have hhour := splitColon?_eq_some_iff.2 ⟨Eq.refl (s.hour ++ ':' :: (s.minute ++ ':' :: s.second)),
    not_mem_colon s.hour_short.isDigit_of_mem⟩
  have hhourValue : short? 23 s.hour = some (ofDigits s.hour) :=
    short?_eq_some_iff.2 ⟨s.hour_short, by rw [← h.hour]; omega, rfl⟩
  have hminute := splitColon?_eq_some_iff.2 ⟨Eq.refl (s.minute ++ ':' :: s.second),
    not_mem_colon s.minute_short.isDigit_of_mem⟩
  have hminuteValue : short? 59 s.minute = some (ofDigits s.minute) :=
    short?_eq_some_iff.2 ⟨s.minute_short, by rw [← h.minute]; omega, rfl⟩
  have hsecondValue : short? 59 s.second = some (ofDigits s.second) :=
    short?_eq_some_iff.2 ⟨s.second_short, by rw [← h.second]; omega, rfl⟩
  simp only [whole?, hyear, hyearValue, hmonth, hmonthValue, hday, hblanks, hhour, hhourValue, hminute, hminuteValue,
    hsecondValue, hdate, htime, Option.bind_eq_bind, Option.bind_some]
  rfl

/-- A capture time is read just if it is spelled. A space behind a colon may stand for the first digit of a day, which a
spelling has no room for. -/
theorem whole?_eq_some_iff {m : Moment} (htight : ¬[':', ' '] <:+: cs) :
    whole? cs = some m ↔ ∃ s : Spelling, cs = s.chars ∧ s.Names m := by
  constructor
  · intro h
    simp only [whole?, Option.bind_eq_bind, Option.bind_eq_some_iff] at h
    obtain ⟨⟨year, cs₁⟩, hyear, _, hyearValue, ⟨month, cs₂⟩, hmonth, _, hmonthValue, ⟨_, cs₃⟩, hday, cs₄, hblanks,
      ⟨hour, cs₅⟩, hhour, _, hhourValue, ⟨minute, second⟩, hminute, _, hminuteValue, _, hsecondValue, date, hdate, hmade⟩ := h
    rw [splitColon?_eq_some_iff] at hyear hmonth hhour hminute
    rw [year?_eq_some_iff] at hyearValue
    rw [short?_eq_some_iff] at hmonthValue hhourValue hminuteValue hsecondValue
    obtain ⟨hlength, hdigits, rfl⟩ := hyearValue
    obtain ⟨hmonthShort, -, rfl⟩ := hmonthValue
    obtain ⟨hhourShort, hhourLe, rfl⟩ := hhourValue
    obtain ⟨hminuteShort, hminuteLe, rfl⟩ := hminuteValue
    obtain ⟨hsecondShort, hsecondLe, rfl⟩ := hsecondValue
    obtain ⟨rfl, -⟩ := hyear
    obtain ⟨rfl, -⟩ := hmonth
    -- what is left for the day stands behind a colon
    have hspace : cs₂.head? ≠ some ' ' := by
      intro hhead
      obtain ⟨rest, rfl⟩ := List.head?_eq_some_iff.1 hhead
      exact htight ⟨year ++ ':' :: month, rest, by simp⟩
    obtain ⟨day, rfl, hdayShort, -, -, rfl⟩ := (day?_eq_some_iff hspace).1 hday
    obtain ⟨blanks, rfl, hblanksNe, hblanksBlank, -⟩ := blanks?_eq_some_iff.1 hblanks
    obtain ⟨rfl, -⟩ := hhour
    obtain ⟨rfl, -⟩ := hminute
    cases hmade
    exact ⟨⟨year, month, day, blanks, hour, minute, second, hlength, hdigits, hmonthShort, hdayShort, hblanksNe, hblanksBlank,
      hhourShort, hminuteShort, hsecondShort⟩, rfl, Spelling.names_made hhourLe hminuteLe hsecondLe hdate⟩
  · rintro ⟨s, rfl, hnames⟩
    exact hnames.read

/-! ## Fillers around a capture time -/

/-- What is trimmed off a text is of the class that is trimmed. -/
theorem exists_trim (p : Char → Bool) (cs : List Char) :
    ∃ front back, cs = front ++ trim p cs ++ back ∧ ∀ c ∈ front ++ back, p c = true := by
  have hfront : ∀ c ∈ cs.takeWhile p, p c = true := fun c hc => List.mem_takeWhile_imp hc
  have hback : ∀ c ∈ (cs.dropWhile p).reverse.takeWhile p, p c = true := fun c hc => List.mem_takeWhile_imp hc
  have hrest : cs.dropWhile p = trim p cs ++ ((cs.dropWhile p).reverse.takeWhile p).reverse := by
    rw [trim, trimEnd, ← List.reverse_append, List.takeWhile_append_dropWhile, List.reverse_reverse]
  refine ⟨cs.takeWhile p, ((cs.dropWhile p).reverse.takeWhile p).reverse, ?_, fun c hc => ?_⟩
  · rw [List.append_assoc, ← hrest, List.takeWhile_append_dropWhile]
  · exact (List.mem_append.1 hc).elim (hfront c) fun h => hback c (List.mem_reverse.1 h)

/-- A text whose ends are not of the class is what is left of it, whatever of the class stands around it. -/
theorem trim_append {p : Char → Bool} {front cs back : List Char} (hfront : ∀ c ∈ front, p c = true)
    (hback : ∀ c ∈ back, p c = true) (hne : cs ≠ []) (hhead : ∀ c ∈ cs.head?, p c = false)
    (hlast : ∀ c ∈ cs.getLast?, p c = false) : trim p (front ++ cs ++ back) = cs := by
  have hstart : (front ++ cs ++ back).dropWhile p = cs ++ back := by
    rw [List.append_assoc, List.dropWhile_append_of_pos hfront]
    cases cs with
    | nil => exact absurd rfl hne
    | cons c cs => exact List.dropWhile_cons_of_neg (by simp [hhead c rfl])
  have hend : (back.reverse ++ cs.reverse).dropWhile p = cs.reverse := by
    rw [List.dropWhile_append_of_pos fun c hc => hback c (List.mem_reverse.1 hc)]
    cases hcs : cs.reverse with
    | nil => exact absurd (List.reverse_eq_nil_iff.1 hcs) hne
    | cons c rest =>
      have hc : c ∈ cs.getLast? := by rw [← List.head?_reverse, hcs]; rfl
      exact List.dropWhile_cons_of_neg (by simp [hlast c hc])
  rw [trim, hstart, trimEnd, List.reverse_append, hend, List.reverse_reverse]

theorem Spelling.trim_chars (s : Spelling) {front back : List Char} (hfill : ∀ c ∈ front ++ back, isFiller c = true) :
    trim isFiller (front ++ s.chars ++ back) = s.chars := by
  obtain ⟨hfront, hback⟩ := List.forall_mem_append.1 hfill
  have hdigit {c : Char} (h : isDigit c = true) : isFiller c = false :=
    of_isDigit (fun c => isFiller c = false) (by decide) h
  have hyear : s.year ≠ [] := fun hnil => absurd s.length_year (by simp [hnil])
  have hlast : s.chars.getLast? = s.second.getLast? := by
    obtain ⟨before, hbefore⟩ : ∃ before, s.chars = before ++ s.second :=
      ⟨s.year ++ ':' :: (s.month ++ ':' :: (s.day ++ (s.blanks ++ (s.hour ++ ':' :: (s.minute ++ [':']))))),
        by simp [chars]⟩
    rw [hbefore, List.getLast?_append_of_ne_nil _ s.second_short.ne_nil]
  refine trim_append hfront hback (by simp [chars]) (fun c hc => hdigit ?_) (fun c hc => hdigit ?_)
  · rw [chars, List.head?_append_of_ne_nil _ hyear] at hc
    exact s.year_digits c (List.mem_of_head? hc)
  · rw [hlast] at hc
    exact s.second_short.isDigit_of_mem c (List.mem_of_getLast? hc)

/-- A text in which no space follows a colon is read as the moment that it tells, if it tells one. -/
theorem read?_eq_some_iff {m : Moment} (htight : ¬[':', ' '] <:+: cs) : read? cs = some m ↔ Tells cs m := by
  obtain ⟨front, back, hcs, hfill⟩ := exists_trim isFiller cs
  have hinfix : trim isFiller cs <:+: cs := ⟨front, back, hcs.symm⟩
  rw [read?, whole?_eq_some_iff fun h => htight (h.trans hinfix)]
  constructor
  · rintro ⟨s, hchars, hnames⟩
    exact ⟨front, back, s, by rw [← hchars]; exact hcs, hfill, hnames⟩
  · rintro ⟨front, back, s, rfl, hfill, hnames⟩
    exact ⟨s, s.trim_chars hfill, hnames⟩

/-! ## Capture times as cameras write them -/

/-- The spelling that a camera writes: all digits, and one space. -/
def Spelling.ofMoment (m : Moment) : Spelling where
  year := paddedDigits 4 m.date.year
  month := paddedDigits 2 m.date.month
  day := paddedDigits 2 m.date.day
  blanks := [' ']
  hour := paddedDigits 2 m.time.hour
  minute := paddedDigits 2 m.time.minute
  second := paddedDigits 2 m.time.second
  length_year := length_paddedDigits 4 _
  year_digits _ := isDigit_of_mem_paddedDigits
  month_short := isShort_paddedDigits _
  day_short := isShort_paddedDigits _
  blanks_ne_nil := by simp
  blanks_blank := List.all_eq_true.1 rfl
  hour_short := isShort_paddedDigits _
  minute_short := isShort_paddedDigits _
  second_short := isShort_paddedDigits _

theorem Spelling.chars_ofMoment (m : Moment) : (ofMoment m).chars = write m := by
  simp [chars, ofMoment, write]

/-- What is written of a moment without a fraction names it. -/
theorem Spelling.ofMoment_names {m : Moment} (h : m.time.micro = 0) : (ofMoment m).Names m := by
  obtain ⟨hhour, hminute, hsecond, -⟩ := m.time.parts_lt
  have hvalid := m.date.valid
  have hyear := hvalid.year_le
  have hmonth := hvalid.month_le
  have hday := Nat.le_trans hvalid.day_le (Date.monthLength_le _ _)
  constructor <;> simp only [ofMoment, ofDigits_paddedDigits, h] <;> omega

/-- A moment without a fraction is read back. -/
theorem read?_write {m : Moment} (h : m.time.micro = 0) : read? (write m) = some m := by
  have htrim : trim isFiller ([] ++ (Spelling.ofMoment m).chars ++ []) = (Spelling.ofMoment m).chars :=
    (Spelling.ofMoment m).trim_chars (by simp)
  rw [List.nil_append, List.append_nil] at htrim
  rw [read?, ← Spelling.chars_ofMoment, htrim]
  exact (Spelling.ofMoment_names h).read

end CaptureTime

/-! ## The small picture -/

namespace Exif

/-- The bytes of a moment as a camera writes it. -/
def timeBytes (m : Moment) : Bytes := (CaptureTime.write m).map fun c => UInt8.ofNat c.toNat

theorem latin_timeBytes (m : Moment) : Bytes.latin (timeBytes m) = CaptureTime.write m := by
  have hsmall : ∀ c ∈ CaptureTime.write m, c.toNat < 256 := by
    have hpadded {width n : Nat} : ∀ c ∈ paddedDigits width n, c.toNat < 256 :=
      fun c hc => of_isDigit (fun c => c.toNat < 256) (by decide) (isDigit_of_mem_paddedDigits hc)
    simp only [CaptureTime.write, List.append_assoc, List.cons_append, List.forall_mem_append, List.forall_mem_cons]
    exact ⟨hpadded, by decide, hpadded, by decide, hpadded, by decide, hpadded, by decide, hpadded, by decide, hpadded⟩
  rw [Bytes.latin, timeBytes, List.map_map]
  refine (List.map_congr_left fun c hc => ?_).trans (List.map_id _)
  have hbyte : (UInt8.ofNat c.toNat).toNat = c.toNat := by simpa using hsmall c hc
  rw [Function.comp_apply, hbyte, Char.ofNat_toNat, id]

/-- Reading the time of the small picture is never a failure, in either byte order and whatever its texts are. If no space follows
a colon in the text that is used, the picture tells the moment that the text tells, and nothing if it tells none. A moment
without a fraction that is written into that text is read back. -/
theorem capture_time_told (order : ByteOrder) (capture file : Option Bytes)
    (hfits : (Picture.blockMark ++ blockOf order capture file).length + 2 < 65536) :
    ∃ told, capturedAt? (pictureOf order capture file) = .ok told ∧
      ((∀ text ∈ usedText capture file, ¬[':', ' '] <:+: Bytes.latin text) →
        ∀ m, told = some m ↔ ∃ text ∈ usedText capture file, CaptureTime.Tells (Bytes.latin text) m) ∧
      ∀ m, m.time.micro = 0 → usedText capture file = some (timeBytes m) → told = some m := by
  refine ⟨_, capturedAt?_pictureOf hfits, fun htight m => ?_, fun m hmicro hused => ?_⟩
  · rw [Option.bind_eq_some_iff]
    constructor
    · rintro ⟨text, htext, hread⟩
      exact ⟨text, htext, (CaptureTime.read?_eq_some_iff (htight text htext)).1 hread⟩
    · rintro ⟨text, htext, htells⟩
      exact ⟨text, htext, (CaptureTime.read?_eq_some_iff (htight text htext)).2 htells⟩
  · rw [hused, Option.bind_some, latin_timeBytes]
    exact CaptureTime.read?_write hmicro

/-- A leap day with short fields. -/
def leapDay : CaptureTime.Spelling where
  year := ['2', '0', '2', '4']
  month := ['2']
  day := ['2', '9']
  blanks := [' ', '\t']
  hour := ['7']
  minute := ['0', '5']
  second := ['9']
  length_year := rfl
  year_digits := List.all_eq_true.1 rfl
  month_short := by decide
  day_short := by decide
  blanks_ne_nil := by decide
  blanks_blank := List.all_eq_true.1 rfl
  hour_short := by decide
  minute_short := by decide
  second_short := by decide

/-- The leap day is told by the text of the file, where that of the camera is empty. -/
theorem leapDay_told :
    let text : Bytes := " 2024:2:29 \t7:05:9 ".toList.map fun c => UInt8.ofNat c.toNat
    capturedAt? (pictureOf .little (some []) (some text)) = .ok (some ⟨⟨2024, 2, 29, by decide⟩, .ofParts 7 5 9 0⟩) := by
  intro text
  obtain ⟨told, hread, htold, -⟩ := capture_time_told .little (some []) (some text) (by decide +kernel)
  have htight : ∀ t ∈ usedText (some []) (some text), ¬[':', ' '] <:+: Bytes.latin t := by
    intro t ht
    obtain rfl := Option.some.inj ht
    decide +kernel
  have hnames : leapDay.Names ⟨⟨2024, 2, 29, by decide⟩, .ofParts 7 5 9 0⟩ := ⟨rfl, rfl, rfl, rfl, rfl, rfl, rfl⟩
  rw [hread, (htold htight _).2 ⟨text, rfl, [' '], [' '], leapDay, by decide +kernel, List.all_eq_true.1 rfl, hnames⟩]

end Exif

end RaceAlbum
