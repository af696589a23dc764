import RaceAlbum.Proofs.Archive.Constrained
import RaceAlbum.Proofs.Archive.Pages
import RaceAlbum.Proofs.Calendar.Instants

/-!
# Searches are exact

`PhotoRow.Matches` says what a photo must be like to be found, with bounds compared as instants, and `PhotoRow.Precedes` which
of two photos is listed first. The pages of a search up to the first empty one hold the photos that match, each once and in
this order (`search_pages_exact`).
-/

namespace RaceAlbum

/-- Identifiers of one number are the same. -/
theorem Uuid.eq_of_value {u v : Uuid} (h : u.value = v.value) : u = v := by
  cases u
  cases v
  cases h
  rfl

/-- A photo is one that the filters ask for: its event is there and not deleted, and each filter that is given holds. -/
structure PhotoRow.Matches (a : Archive) (f : PhotoFilters) (r : PhotoRow) : Prop where
  event : ∃ e ∈ a.events, e.id = r.eventId ∧ e.deletedAt = none
  eventId : ∀ id ∈ f.eventId, r.eventId = id
  status : ∀ s ∈ f.status, r.status = s
  plate : ∀ n ∈ f.plateNumber, ∃ c ∈ a.cyclists, c.photoId = r.id ∧ ∃ p ∈ a.plates, p.cyclistId = c.id ∧ p.number = n
  fromDate : ∀ s ∈ f.fromDate, s.instant ≤ r.uploadedAt.micros
  toDate : ∀ s ∈ f.toDate, r.uploadedAt.micros ≤ s.instant

/-- Whether a photo is asked for can be checked. -/
instance (a : Archive) (f : PhotoFilters) (r : PhotoRow) : Decidable (r.Matches a f) :=
  decidable_of_iff ((∃ e ∈ a.events, e.id = r.eventId ∧ e.deletedAt = none) ∧ (∀ id ∈ f.eventId, r.eventId = id) ∧
      (∀ s ∈ f.status, r.status = s) ∧
      (∀ n ∈ f.plateNumber, ∃ c ∈ a.cyclists, c.photoId = r.id ∧ ∃ p ∈ a.plates, p.cyclistId = c.id ∧ p.number = n) ∧
      (∀ s ∈ f.fromDate, s.instant ≤ r.uploadedAt.micros) ∧ ∀ s ∈ f.toDate, r.uploadedAt.micros ≤ s.instant)
    ⟨fun ⟨h₁, h₂, h₃, h₄, h₅, h₆⟩ => ⟨h₁, h₂, h₃, h₄, h₅, h₆⟩, fun ⟨h₁, h₂, h₃, h₄, h₅, h₆⟩ => ⟨h₁, h₂, h₃, h₄, h₅, h₆⟩⟩

/-- A photo is listed before another: it was uploaded later, or at the same moment and has the smaller identifier. -/
def PhotoRow.Precedes (r s : PhotoRow) : Prop :=
  s.uploadedAt.micros < r.uploadedAt.micros ∨ (r.uploadedAt = s.uploadedAt ∧ r.id.value < s.id.value)

namespace PhotoFilters

/-- The bounds can be moved to universal time without leaving the calendar. -/
def Convertible (f : PhotoFilters) : Prop :=
  (∀ s ∈ f.fromDate, s.utc?.isSome = true) ∧ ∀ s ∈ f.toDate, s.utc?.isSome = true

/-- Filters that differ at most in how they spell the instants of their bounds. -/
structure SameInstants (f g : PhotoFilters) : Prop where
  eventId : f.eventId = g.eventId
  status : f.status = g.status
  plateNumber : f.plateNumber = g.plateNumber
  fromDate : f.fromDate.map Stamp.instant = g.fromDate.map Stamp.instant
  toDate : f.toDate.map Stamp.instant = g.toDate.map Stamp.instant

end PhotoFilters

namespace Archive

variable {a : Archive} {f g : PhotoFilters}

/-! ## Bounds -/

/-- A bound that can be moved to universal time is moved to the moment of its instant. -/
theorem searchBound?_ok {b? : Option Stamp} (h : ∀ s ∈ b?, s.utc?.isSome = true) :
    ∃ m?, searchBound? b? = .ok m? ∧ m?.map (fun m => (m.micros : Int)) = b?.map Stamp.instant := by
  cases b? with
  | none => exact ⟨none, rfl, rfl⟩
  | some s =>
    obtain ⟨m, hm⟩ := Option.isSome_iff_exists.1 (h s rfl)
    refine ⟨some m, ?_, ?_⟩
    · simp [searchBound?, searchBound, hm, Except.map]
    · simp [Stamp.utc?_micros hm]

/-- Filters whose bounds can be moved to universal time ask for what they say, with bounds at the instants that they name. -/
theorem ofFilters_ok (hf : f.Convertible) :
    ∃ s, Search.ofFilters f = .ok s ∧ s.eventId = f.eventId ∧ s.status = f.status ∧ s.plateNumber = f.plateNumber ∧
      s.fromMoment.map (fun m => (m.micros : Int)) = f.fromDate.map Stamp.instant ∧
      s.toMoment.map (fun m => (m.micros : Int)) = f.toDate.map Stamp.instant := by
  obtain ⟨m?, hm, hfrom⟩ := searchBound?_ok hf.1
  obtain ⟨n?, hn, hto⟩ := searchBound?_ok hf.2
  refine ⟨⟨f.eventId, f.status, f.plateNumber, m?, n?⟩, ?_, rfl, rfl, rfl, hfrom, hto⟩
  unfold Search.ofFilters
  rw [hm, hn]
  rfl

/-- Moments of the same instants are the same. -/
theorem eq_of_instants {m? n? : Option Moment}
    (h : m?.map (fun m => (m.micros : Int)) = n?.map (fun m => (m.micros : Int))) : m? = n? := by
  cases m? with
  | none =>
    cases n? with
    | none => rfl
    | some n => cases h
  | some m =>
    cases n? with
    | none => cases h
    | some n =>
      have hmicros : (m.micros : Int) = n.micros := Option.some.inj h
      rw [Moment.eq_of_micros (Int.ofNat_inj.1 hmicros)]

/-- Two spellings of the same bounds ask for the same search. -/
theorem ofFilters_eq (hf : f.Convertible) (hg : g.Convertible) (h : f.SameInstants g) :
    Search.ofFilters f = Search.ofFilters g := by
  obtain ⟨⟨e, s, n, lo, hi⟩, hs, he, hst, hn, hlo, hhi⟩ := ofFilters_ok hf
  obtain ⟨⟨e', s', n', lo', hi'⟩, hs', he', hst', hn', hlo', hhi'⟩ := ofFilters_ok hg
  simp only at he hst hn hlo hhi he' hst' hn' hlo' hhi'
  have hfrom : lo = lo' := eq_of_instants (hlo.trans (h.fromDate.trans hlo'.symm))
  have hto : hi = hi' := eq_of_instants (hhi.trans (h.toDate.trans hhi'.symm))
  rw [hs, hs', he, hst, hn, he', hst', hn', h.eventId, h.status, h.plateNumber, hfrom, hto]

/-! ## What matches -/

theorem passes_iff {α : Type} {filter : Option α} {holds : α → Bool} :
    passes filter holds = true ↔ ∀ x ∈ filter, holds x = true := by
  cases filter <;> simp [passes]

theorem eventIsActive_iff {r : PhotoRow} :
    a.eventIsActive r = true ↔ ∃ e ∈ a.events, e.id = r.eventId ∧ e.deletedAt = none := by
  simp [eventIsActive, EventRow.isActive]

/-- Some cyclist on a photo has a plate of a number, whichever way the tables are joined. -/
theorem hasPlateNumber_iff {photoId : Uuid} {n : Int} : a.hasPlateNumber photoId n = true ↔
    ∃ c ∈ a.cyclists, c.photoId = photoId ∧ ∃ p ∈ a.plates, p.cyclistId = c.id ∧ p.number = n := by
  simp only [hasPlateNumber, photoHasCyclist, ofPhoto, List.any_eq_true, Bool.and_eq_true, beq_iff_eq]
  constructor
  · rintro ⟨p, hp, hn, c, hc, hphoto, hid⟩
    exact ⟨c, hc, hphoto, p, hp, hid.symm, hn⟩
  · rintro ⟨c, hc, hphoto, p, hp, hid, hn⟩
    exact ⟨p, hp, hn, c, hc, hphoto, hid.symm⟩

/-- A bound lets pass what it lets pass by its instant. -/
theorem passes_bound {m? : Option Moment} {b? : Option Stamp} {holds : Moment → Bool} {P : Int → Prop}
    (h : m?.map (fun m => (m.micros : Int)) = b?.map Stamp.instant) (hP : ∀ m, holds m = true ↔ P m.micros) :
    passes m? holds = true ↔ ∀ s ∈ b?, P s.instant := by
  cases m? with
  | none =>
    cases b? with
    | none => simp [passes]
    | some s => cases h
  | some m =>
    cases b? with
    | none => cases h
    | some s =>
      have hinstant : (m.micros : Int) = s.instant := Option.some.inj h
      rw [passes_iff]
      simp only [Option.mem_some_iff, forall_eq', hP, hinstant]

/-- Moments in the order of their keys are in the order of their instants. -/
theorem key_le_iff {m n : Moment} : decide (m.key ≤ n.key) = true ↔ (m.micros : Int) ≤ n.micros := by
  rw [decide_eq_true_iff, Int.ofNat_le]
  exact Moment.micros_le_iff.symm

/-- What a search lets pass is what its filters ask for. -/
theorem isMatch_iff {s : Search} {r : PhotoRow} (he : s.eventId = f.eventId) (hst : s.status = f.status)
    (hn : s.plateNumber = f.plateNumber) (hlo : s.fromMoment.map (fun m => (m.micros : Int)) = f.fromDate.map Stamp.instant)
    (hhi : s.toMoment.map (fun m => (m.micros : Int)) = f.toDate.map Stamp.instant) :
    a.isMatch s r = true ↔ r.Matches a f := by
  unfold isMatch
  have hfrom := passes_bound (P := fun n => n ≤ r.uploadedAt.micros) hlo fun m => key_le_iff
  have hto := passes_bound (P := fun n => r.uploadedAt.micros ≤ n) hhi fun m => key_le_iff
  simp only [Bool.and_eq_true, hfrom, hto, eventIsActive_iff]
  rw [he, hst, hn]
  simp only [passes_iff, hasPlateNumber_iff, beq_iff_eq]
  constructor
  · rintro ⟨⟨⟨⟨⟨hevent, hid⟩, hstatus⟩, hplate⟩, hfrom⟩, hto⟩
    exact ⟨hevent, fun id h => (hid id h).symm, fun s h => (hstatus s h).symm, hplate, hfrom, hto⟩
  · rintro ⟨hevent, hid, hstatus, hplate, hfrom, hto⟩
    exact ⟨⟨⟨⟨⟨hevent, fun id h => (hid id h).symm⟩, fun s h => (hstatus s h).symm⟩, hplate⟩, hfrom⟩, hto⟩

/-! ## The order of the list -/

theorem photoBefore_iff {r s : PhotoRow} : photoBefore r s = true ↔
    s.uploadedAt.key < r.uploadedAt.key ∨ (r.uploadedAt.key = s.uploadedAt.key ∧ r.id.value ≤ s.id.value) := by
  unfold photoBefore
  rw [Bool.or_eq_true, Bool.and_eq_true, decide_eq_true_iff, beq_iff_eq, decide_eq_true_iff]
  rfl

/-- Photos are sorted with the later uploaded first, and those of one moment by their identifiers. -/
theorem matching_pairwise (a : Archive) (s : Search) : (a.matching s).Pairwise fun q r => photoBefore q r = true := by
  refine List.pairwise_mergeSort ?_ ?_ _
  · intro p q r hpq hqr
    rw [photoBefore_iff] at hpq hqr ⊢
    omega
  · intro p q
    rw [Bool.or_eq_true, photoBefore_iff, photoBefore_iff]
    omega

theorem mem_matching {s : Search} {r : PhotoRow} : r ∈ a.matching s ↔ r ∈ a.photos ∧ a.isMatch s r = true := by
  unfold matching
  rw [List.mem_mergeSort, List.mem_filter]

/-- No photo is listed twice. -/
theorem matching_ids (ha : a.Constrained) (s : Search) : ((a.matching s).map PhotoRow.id).Nodup :=
  nodup_keys_sorted _ _ ha.photoIds

/-- Of two photos in the list the first precedes the second. -/
theorem matching_precedes (ha : a.Constrained) (s : Search) : (a.matching s).Pairwise PhotoRow.Precedes := by
  have hids : (a.matching s).Pairwise fun q r => q.id ≠ r.id := List.pairwise_map.1 (matching_ids ha s)
  refine ((matching_pairwise a s).and hids).imp ?_
  rintro q r ⟨hbefore, hne⟩
  rcases photoBefore_iff.1 hbefore with hlater | ⟨hsame, hid⟩
  · left
    have horder : q.uploadedAt.micros ≤ r.uploadedAt.micros ↔ q.uploadedAt.key ≤ r.uploadedAt.key :=
      Moment.micros_le_iff
    omega
  · right
    have hvalue : q.id.value ≠ r.id.value := by
      intro heq
      exact hne (Uuid.eq_of_value heq)
    exact ⟨Moment.eq_of_key hsame, by omega⟩

/-! ## Pages -/

theorem searchPage_eq {s : Search} (hs : Search.ofFilters f = .ok s) :
    a.searchPage f = fun p => (pageOf p (a.matching s)).map (List.map PhotoRow.listItem) := by
  funext p
  unfold searchPage
  rw [hs]
  change (pageOf p (a.matching s) >>= fun rows => .ok (rows.map PhotoRow.listItem)) = _
  rcases pageOf p (a.matching s) with f | rows
  · rfl
  · rfl

/-- The photos of an event are what matches a search for that event alone. -/
theorem listedPhotos_eq (a : Archive) (id : Uuid) : a.listedPhotos id = a.matching ⟨some id, none, none, none, none⟩ := by
  have hmatch : ∀ r ∈ a.photos,
      (a.eventIsActive r && r.eventId == id) = a.isMatch ⟨some id, none, none, none, none⟩ r := fun r _ => by
    simp only [isMatch, passes, Bool.and_true]
    rw [BEq.comm]
  rw [listedPhotos, List.filter_congr hmatch, matching]

/-- So are their pages. -/
theorem photoPage_eq (a : Archive) (id : Uuid) (p : Page) :
    a.photoPage id p = a.searchPage ⟨some id, none, none, none, none⟩ p := by
  have hfilters : Search.ofFilters ⟨some id, none, none, none, none⟩ = .ok ⟨some id, none, none, none, none⟩ := rfl
  rw [photoPage, listedPhotos_eq, searchPage_eq hfilters]

/-- The pages of a search up to the first empty one hold the list of what matches. -/
theorem readsAll_searchPage {s : Search} (hs : Search.ofFilters f = .ok s) {limit : Int} (hlimit : 1 ≤ limit)
    (hfit : isInt64 (a.photos.length + limit) = true) :
    ReadsAll (a.searchPage f) limit ((a.matching s).map PhotoRow.listItem) := by
  have hread : ReadsAll (fun p => pageOf p (a.matching s)) limit (a.matching s) := readsAll_sorted _ _ _ hlimit hfit
  rw [searchPage_eq hs]
  exact ReadsFrom.map PhotoRow.listItem hread

/-- What is read in this way is what the filters ask for. -/
theorem searchPage_reads (hf : f.Convertible) {limit : Int} (hlimit : 1 ≤ limit)
    (hfit : isInt64 (a.photos.length + limit) = true) :
    ∃ s, ReadsAll (a.searchPage f) limit ((a.matching s).map PhotoRow.listItem) ∧
      ∀ r, r ∈ a.matching s ↔ r ∈ a.photos ∧ r.Matches a f := by
  obtain ⟨s, hs, he, hst, hn, hlo, hhi⟩ := ofFilters_ok hf
  refine ⟨s, readsAll_searchPage hs hlimit hfit, fun r => ?_⟩
  rw [mem_matching, isMatch_iff he hst hn hlo hhi]

/-- Page by page, up to the first empty page, a search lists the photos that match its filters: each of them once, no other,
the later uploaded first and those of one moment by their identifiers. It does not matter how the instants of the bounds are
spelled, and the photos of an event are what a search for that event alone lists, page by page. -/
theorem search_pages_exact (a : Archive) (ha : a.Constrained) (f : PhotoFilters) (hf : f.Convertible) (limit : Int)
    (hlimit : 1 ≤ limit ∧ limit ≤ 100) (hfit : isInt64 (a.photos.length + limit) = true) :
    (∃ rows : List PhotoRow, ReadsAll (a.searchPage f) limit (rows.map PhotoRow.listItem) ∧
      (rows.map PhotoRow.id).Nodup ∧ (∀ r, r ∈ rows ↔ r ∈ a.photos ∧ r.Matches a f) ∧
      rows.Pairwise PhotoRow.Precedes) ∧
    (∀ g : PhotoFilters, g.Convertible → f.SameInstants g → ∀ p, a.searchPage f p = a.searchPage g p) ∧
    ∀ id p, a.photoPage id p = a.searchPage ⟨some id, none, none, none, none⟩ p := by
  obtain ⟨s, hread, hmem⟩ := searchPage_reads hf hlimit.1 hfit
  refine ⟨⟨a.matching s, hread, matching_ids ha s, hmem, matching_precedes ha s⟩, fun g hg hsame p => ?_, a.photoPage_eq⟩
  unfold searchPage
  rw [ofFilters_eq hf hg hsame]

/-- A plate from noon on, where noon is given as the clocks of an offset of one hour show it. -/
def plateFromNoon : PhotoFilters :=
  ⟨none, none, some 42, some ⟨⟨.first, .ofParts 13 0 0 0⟩, some ⟨3600, by decide⟩⟩, none⟩

/-- In the small album two photos have the plate from noon on, one of them on two cyclists: pages of one photo list each of
them once, as they do where noon is given in universal time. -/
theorem smallAlbum_pages_exact :
    let utc : PhotoFilters := { plateFromNoon with fromDate := some (.ofUtc ⟨.first, .ofParts 12 0 0 0⟩) }
    (smallAlbum.Constrained ∧ plateFromNoon.Convertible ∧ isInt64 (smallAlbum.photos.length + 1) = true) ∧
    (smallAlbum.photos.filter fun r => r.Matches smallAlbum plateFromNoon).map PhotoRow.id = [.ofNat 3, .ofNat 5] ∧
    (∃ rows : List PhotoRow, ReadsAll (smallAlbum.searchPage plateFromNoon) 1 (rows.map PhotoRow.listItem) ∧
      (rows.map PhotoRow.id).Nodup ∧
      (∀ r, r ∈ rows ↔ r ∈ smallAlbum.photos ∧ r.Matches smallAlbum plateFromNoon) ∧ rows.Pairwise PhotoRow.Precedes) ∧
    ∀ p, smallAlbum.searchPage plateFromNoon p = smallAlbum.searchPage utc p := by
  intro utc
  have hconstrained : smallAlbum.Constrained := by decide +kernel
  have hconvertible : plateFromNoon.Convertible := ⟨by decide +kernel, by decide +kernel⟩
  have hfit : isInt64 (smallAlbum.photos.length + 1) = true := by decide +kernel
  obtain ⟨⟨rows, hread, hnodup, hmem, horder⟩, hsame, -⟩ :=
    search_pages_exact smallAlbum hconstrained plateFromNoon hconvertible 1 (by decide) hfit
  have hutc : utc.Convertible := ⟨by decide +kernel, by decide +kernel⟩
  have hinstants : plateFromNoon.SameInstants utc := ⟨rfl, rfl, rfl, by decide +kernel, rfl⟩
  exact ⟨⟨hconstrained, hconvertible, hfit⟩, by decide +kernel, ⟨rows, hread, hnodup, hmem, horder⟩,
    hsame utc hutc hinstants⟩

end Archive

end RaceAlbum
