import Mathlib.Data.List.Perm.Basic
import RaceAlbum.Proofs.Archive.Search

/-!
# All reads show the same photo

A photo is shown by itself with its cyclists, each of them with a plate and with colours, and it is found by the numbers of
its plates; one read walks from the photo to the rows that refer to it, the other asks for any rows that fit together. What is
shown is a nesting of the rows (`Archive.IsNesting`), and a nesting put flat is the rows that belong to the photo. So the
photo is found by the numbers that it shows, and lists, the detail and the entity show the same of it (`reads_agree`).
-/

namespace RaceAlbum

/-- The row of a cyclist with the row of its plate and the rows of its colours. -/
structure Sighting where
  cyclist : CyclistRow
  plate : Option PlateRow
  colors : List ColorRow

/-- What is shown of a cyclist. -/
def Sighting.view (x : Sighting) : CyclistView := x.cyclist.view x.plate x.colors

/-- What a list shows of the photo of a detail. -/
def PhotoListItem.ofDetail (d : PhotoDetail) : PhotoListItem :=
  ⟨d.id, d.eventId, d.filename, d.storageKey, d.status, d.width, d.height, d.uploadedAt⟩

/-- What a list shows of a photo. -/
def PhotoListItem.ofEntity (p : Photo) : PhotoListItem :=
  ⟨p.id, p.eventId, p.filename, p.storageKey, p.status.text, p.width, p.height, p.uploadedAt⟩

/-- The rows of each of some keys, one key after the other, are the rows of all these keys. -/
theorem flatMap_filter_perm {ρ : Type} {key : ρ → Uuid} (rows : List ρ) {ids : List Uuid} (hids : ids.Nodup) :
    (ids.flatMap fun id => rows.filter fun r => key r = id).Perm (rows.filter fun r => key r ∈ ids) := by
  induction ids with
  | nil => simp
  | cons id ids ih =>
    obtain ⟨hnot, hids⟩ := List.nodup_cons.1 hids
    have hsplit := List.filter_append_perm (fun r => key r = id) (rows.filter fun r => key r ∈ id :: ids)
    have hfirst : (rows.filter fun r => key r ∈ id :: ids).filter (fun r => key r = id) =
        rows.filter fun r => key r = id := by
      rw [List.filter_filter]
      refine List.filter_congr fun r _ => ?_
      by_cases hr : key r = id
      · simp [hr]
      · simp [hr]
    have hrest : (rows.filter fun r => key r ∈ id :: ids).filter (fun r => !decide (key r = id)) =
        rows.filter fun r => key r ∈ ids := by
      rw [List.filter_filter]
      refine List.filter_congr fun r _ => ?_
      by_cases hr : key r = id
      · simp [hr, hnot]
      · simp [hr]
    rw [hfirst, hrest] at hsplit
    exact ((ih hids).append_left _).trans hsplit

namespace Archive

variable {a : Archive} {id : Uuid} {xs : List Sighting}

/-! ## Nestings -/

/-- The rows that belong to a photo, nested: its cyclists in the order of their creation, each with its own plate and with its
own colours in the order of their creation. -/
structure IsNesting (a : Archive) (id : Uuid) (xs : List Sighting) : Prop where
  cyclists : (xs.map Sighting.cyclist).Perm (a.cyclists.filter fun c => c.photoId = id)
  cyclistOrder : xs.Pairwise fun x y => x.cyclist.createdAt.micros ≤ y.cyclist.createdAt.micros
  plate : ∀ x ∈ xs, ∀ p, x.plate = some p ↔ p ∈ a.plates ∧ p.cyclistId = x.cyclist.id
  colors : ∀ x ∈ xs, x.colors.Perm (a.colors.filter fun c => c.cyclistId = x.cyclist.id)
  colorOrder : ∀ x ∈ xs, x.colors.Pairwise fun c d => c.createdAt.micros ≤ d.createdAt.micros

/-- What is sorted by moments is in the order of their instants. -/
theorem sortByKey_pairwise {α : Type} (moment : α → Moment) (rows : List α) :
    (sortByKey (fun r => (moment r).key) rows).Pairwise fun r s => (moment r).micros ≤ (moment s).micros := by
  have hsorted : (sortByKey (fun r => (moment r).key) rows).Pairwise fun r s =>
      decide ((moment r).key ≤ (moment s).key) = true := by
    refine List.pairwise_mergeSort ?_ ?_ _
    · intro r s t hrs hst
      rw [decide_eq_true_iff] at hrs hst ⊢
      omega
    · intro r s
      rw [Bool.or_eq_true, decide_eq_true_iff, decide_eq_true_iff]
      omega
  refine hsorted.imp ?_
  intro r s hrs
  exact Moment.micros_le_iff.2 (of_decide_eq_true hrs)

theorem sortByKey_perm {α : Type} (key : α → Nat) (rows : List α) : (sortByKey key rows).Perm rows :=
  List.mergeSort_perm _ _

/-- A cyclist with the rows that are loaded for it. -/
def sighting (a : Archive) (c : CyclistRow) : Sighting := ⟨c, a.plateOf? c.id, a.colorsOf c.id⟩

/-- What is loaded of a photo is a nesting of its rows. -/
theorem cyclistsOf_isNesting (ha : a.Constrained) (id : Uuid) : a.IsNesting id ((a.cyclistsOf id).map a.sighting) where
  cyclists := by
    have hrows : ((a.cyclistsOf id).map a.sighting).map Sighting.cyclist = a.cyclistsOf id := by
      rw [List.map_map]
      exact List.map_id _
    rw [hrows]
    exact sortByKey_perm _ _
  cyclistOrder := by
    rw [List.pairwise_map]
    exact sortByKey_pairwise CyclistRow.createdAt _
  plate := by
    rw [List.forall_mem_map]
    intro c _ p
    exact ha.plateOf?_eq_some_iff
  colors := by
    rw [List.forall_mem_map]
    intro c _
    exact sortByKey_perm _ _
  colorOrder := by
    rw [List.forall_mem_map]
    intro c _
    exact sortByKey_pairwise ColorRow.createdAt _

namespace IsNesting

/-- The cyclists of a nesting are those of the photo. -/
theorem mem_cyclists (h : a.IsNesting id xs) {c : CyclistRow} :
    (∃ x ∈ xs, x.cyclist = c) ↔ c ∈ a.cyclists ∧ c.photoId = id := by
  rw [← List.mem_map, h.cyclists.mem_iff, List.mem_filter, decide_eq_true_iff]

/-- No cyclist is nested twice. -/
theorem ids (h : a.IsNesting id xs) (ha : a.Constrained) : (xs.map fun x => x.cyclist.id).Nodup := by
  have hperm : (xs.map fun x => x.cyclist.id).Perm ((a.cyclists.filter fun c => c.photoId = id).map CyclistRow.id) := by
    have hmap := h.cyclists.map CyclistRow.id
    rwa [List.map_map] at hmap
  exact hperm.nodup_iff.2 (nodup_keys_filter _ ha.cyclistIds)

/-- The cyclists of a nesting have the identifiers of the cyclists on the photo. -/
theorem mem_ids (h : a.IsNesting id xs) {k : Uuid} :
    k ∈ xs.map (fun x => x.cyclist.id) ↔ a.photoHasCyclist id k = true := by
  rw [photoHasCyclist, List.any_eq_true, List.mem_map]
  constructor
  · rintro ⟨x, hx, rfl⟩
    obtain ⟨hc, hphoto⟩ := h.mem_cyclists.1 ⟨x, hx, rfl⟩
    exact ⟨x.cyclist, hc, by simp [ofPhoto, hphoto]⟩
  · rintro ⟨c, hc, hkey⟩
    rw [ofPhoto, Bool.and_eq_true, beq_iff_eq, beq_iff_eq] at hkey
    obtain ⟨x, hx, rfl⟩ := h.mem_cyclists.2 ⟨hc, hkey.1⟩
    exact ⟨x, hx, hkey.2⟩

/-- What is nested under the cyclists of a photo, put flat, is what refers to a cyclist of the photo. -/
theorem flatten (h : a.IsNesting id xs) (ha : a.Constrained) {ρ : Type} {rows : List ρ} {key : ρ → Uuid}
    {part : Sighting → List ρ} (hpart : ∀ x ∈ xs, (part x).Perm (rows.filter fun r => key r = x.cyclist.id)) :
    (xs.flatMap part).Perm (rows.filter fun r => a.photoHasCyclist id (key r)) := by
  have hmem : (rows.filter fun r => key r ∈ xs.map fun x => x.cyclist.id) =
      rows.filter fun r => a.photoHasCyclist id (key r) := by
    refine List.filter_congr fun r _ => ?_
    rw [Bool.eq_iff_iff, decide_eq_true_iff]
    exact h.mem_ids
  have hkeys : ((xs.map fun x => x.cyclist.id).flatMap fun k => rows.filter fun r => key r = k).Perm
      (rows.filter fun r => key r ∈ xs.map fun x => x.cyclist.id) := flatMap_filter_perm rows (h.ids ha)
  rw [List.flatMap_map, hmem] at hkeys
  exact (List.Perm.flatMap_left _ hpart).trans hkeys

/-- The plates of a nesting, put flat, are those of the cyclists of the photo. -/
theorem plates_perm (h : a.IsNesting id xs) (ha : a.Constrained) :
    (xs.flatMap fun x => x.plate.toList).Perm (a.plates.filter fun p => a.photoHasCyclist id p.cyclistId) := by
  refine h.flatten ha fun x hx => ?_
  have hrows : (a.plates.filter fun p => p.cyclistId = x.cyclist.id).Nodup := (ha.plateIds.of_map _).filter _
  have hplate : x.plate.toList.Nodup := by
    cases x.plate with
    | none => exact List.nodup_nil
    | some p => exact List.nodup_singleton p
  rw [List.perm_ext_iff_of_nodup hplate hrows]
  intro p
  rw [Option.mem_toList, h.plate x hx, List.mem_filter, decide_eq_true_iff]

/-- The colours of a nesting, put flat, are those of the cyclists of the photo. -/
theorem colors_perm (h : a.IsNesting id xs) (ha : a.Constrained) :
    (xs.flatMap Sighting.colors).Perm (a.colors.filter fun c => a.photoHasCyclist id c.cyclistId) :=
  h.flatten ha h.colors

/-- The numbers of the plates that are shown of a photo are those that it is found by. -/
theorem shows_number (h : a.IsNesting id xs) {n : Int} :
    (∃ v ∈ xs.map Sighting.view, ∃ p, v.plate = some p ∧ p.number = n) ↔
      ∃ c ∈ a.cyclists, c.photoId = id ∧ ∃ p ∈ a.plates, p.cyclistId = c.id ∧ p.number = n := by
  constructor
  · rintro ⟨v, hv, p, hp, hn⟩
    obtain ⟨x, hx, rfl⟩ := List.mem_map.1 hv
    obtain ⟨row, hrow, rfl⟩ := Option.map_eq_some_iff.1 hp
    obtain ⟨hplate, hcyclist⟩ := (h.plate x hx row).1 hrow
    obtain ⟨hc, hphoto⟩ := h.mem_cyclists.1 ⟨x, hx, rfl⟩
    exact ⟨x.cyclist, hc, hphoto, row, hplate, hcyclist, hn⟩
  · rintro ⟨c, hc, hphoto, row, hplate, hcyclist, hn⟩
    obtain ⟨x, hx, rfl⟩ := h.mem_cyclists.2 ⟨hc, hphoto⟩
    have hrow : x.plate = some row := (h.plate x hx row).2 ⟨hplate, hcyclist⟩
    refine ⟨x.view, List.mem_map_of_mem hx, row.view, ?_, hn⟩
    rw [Sighting.view, CyclistRow.view, hrow]
    rfl

end IsNesting

/-! ## Lists -/

/-- An item of a page: of a search, or of the photos of an event. -/
def Lists (a : Archive) (item : PhotoListItem) : Prop :=
  ∃ page items, item ∈ items ∧
    ((∃ f, a.searchPage f page = .ok items) ∨ ∃ eventId, a.photoPage eventId page = .ok items)

/-- An item of a list shows the row of a photo. -/
theorem Lists.exists_row {item : PhotoListItem} (h : a.Lists item) : ∃ r ∈ a.photos, item = r.listItem := by
  obtain ⟨page, items, hitem, hread⟩ := h
  have hsearch : ∃ f, a.searchPage f page = .ok items := by
    rcases hread with hsearch | ⟨eventId, hphotos⟩
    · exact hsearch
    · exact ⟨_, (a.photoPage_eq eventId page).symm.trans hphotos⟩
  obtain ⟨f, hf⟩ := hsearch
  cases hs : Search.ofFilters f with
  | error e =>
    rw [searchPage, hs] at hf
    cases hf
  | ok s =>
    rw [searchPage_eq hs] at hf
    obtain ⟨r, hr, rfl⟩ := exists_of_mem_page hf hitem
    exact ⟨r, (mem_matching.1 hr).1, rfl⟩

/-- A photo is found by a number if its event is not deleted and a plate in its detail has the number. -/
theorem matches_number_iff {r : PhotoRow} (h : a.IsNesting r.id xs) {n : Int} :
    r.Matches a ⟨none, none, some n, none, none⟩ ↔ (∃ e ∈ a.events, e.id = r.eventId ∧ e.deletedAt = none) ∧
      ∃ v ∈ xs.map Sighting.view, ∃ p, v.plate = some p ∧ p.number = n := by
  rw [h.shows_number]
  constructor
  · intro hmatch
    exact ⟨hmatch.event, hmatch.plate n rfl⟩
  · rintro ⟨hevent, hplate⟩
    have hnumber : ∀ m ∈ some n, ∃ c ∈ a.cyclists, c.photoId = r.id ∧
        ∃ p ∈ a.plates, p.cyclistId = c.id ∧ p.number = m := by
      rintro m ⟨⟩
      exact hplate
    refine ⟨hevent, ?_, ?_, hnumber, ?_, ?_⟩
    all_goals
      rintro _ ⟨⟩

/-- Every read shows the same photo. Its detail is a nesting of its rows, which put flat is all the rows that belong to it. A
search for a number, read page by page, lists it if its event is not deleted and a plate in the detail has that number. Each
item that lists it shows what the detail and the entity show. -/
theorem reads_agree (a : Archive) (ha : a.Constrained) (r : PhotoRow) (hr : r ∈ a.photos) :
    ∃ xs : List Sighting,
      let detail := r.detail (xs.map Sighting.view)
      a.photoDetail? r.id = some detail ∧ a.photo? r.id = some r ∧
      (a.IsNesting r.id xs ∧
        (xs.flatMap fun x => x.plate.toList).Perm (a.plates.filter fun p => a.photoHasCyclist r.id p.cyclistId) ∧
        (xs.flatMap Sighting.colors).Perm (a.colors.filter fun c => a.photoHasCyclist r.id c.cyclistId)) ∧
      (∀ n limit : Int, 1 ≤ limit → isInt64 (a.photos.length + limit) = true →
        ∃ items, ReadsAll (a.searchPage ⟨none, none, some n, none, none⟩) limit items ∧
          ((∃ item ∈ items, item.id = r.id) ↔ (∃ e ∈ a.events, e.id = r.eventId ∧ e.deletedAt = none) ∧
            ∃ v ∈ detail.cyclists, ∃ p, v.plate = some p ∧ p.number = n)) ∧
      ∀ item, a.Lists item → item.id = r.id → item = .ofDetail detail ∧ item = .ofEntity r.entity := by
  have hnesting := cyclistsOf_isNesting ha r.id
  have hphoto := ha.photo?_eq hr
  refine ⟨(a.cyclistsOf r.id).map a.sighting, ?_, hphoto, ⟨hnesting, hnesting.plates_perm ha, hnesting.colors_perm ha⟩,
    ?_, ?_⟩
  · rw [photoDetail?, hphoto, List.map_map]
    rfl
  · intro n limit hlimit hfit
    have hconvertible : PhotoFilters.Convertible ⟨none, none, some n, none, none⟩ :=
      ⟨fun _ h => (nomatch h), fun _ h => (nomatch h)⟩
    obtain ⟨s, hread, hmem⟩ := searchPage_reads hconvertible hlimit hfit
    refine ⟨_, hread, Iff.trans ?_ (matches_number_iff hnesting)⟩
    constructor
    · rintro ⟨item, hitem, hid⟩
      obtain ⟨q, hq, rfl⟩ := List.mem_map.1 hitem
      obtain ⟨hrow, hmatch⟩ := (hmem q).1 hq
      rwa [ha.eq_of_photoId hrow hr hid] at hmatch
    · intro hmatch
      exact ⟨r.listItem, List.mem_map_of_mem ((hmem r).2 ⟨hr, hmatch⟩), rfl⟩
  · intro item hlists hid
    obtain ⟨q, hq, rfl⟩ := hlists.exists_row
    rw [ha.eq_of_photoId hq hr hid]
    exact ⟨rfl, rfl⟩

/-- The first photo of the small album shows two cyclists with the same plate and two colours, which were added the later
first, and the pages of that plate list it. -/
theorem smallAlbum_reads_agree :
    let r := smallAlbum.photos.head (by decide +kernel)
    (smallAlbum.Constrained ∧ r ∈ smallAlbum.photos ∧ isInt64 (smallAlbum.photos.length + 1) = true) ∧
    ∃ xs : List Sighting,
      smallAlbum.photoDetail? r.id = some (r.detail (xs.map Sighting.view)) ∧ smallAlbum.IsNesting r.id xs ∧
      xs.length = 2 ∧ (xs.flatMap Sighting.colors).length = 2 ∧
      ∃ items, ReadsAll (smallAlbum.searchPage ⟨none, none, some 42, none, none⟩) 1 items ∧
        ∃ item ∈ items, item.id = r.id := by
  intro r
  have hconstrained : smallAlbum.Constrained := by decide +kernel
  have hr : r ∈ smallAlbum.photos := List.head_mem _
  have hfit : isInt64 (smallAlbum.photos.length + 1) = true := by decide +kernel
  obtain ⟨xs, hdetail, -, ⟨hnesting, -, hcolors⟩, hlisted, -⟩ :=
    reads_agree smallAlbum hconstrained r hr
  have hcyclists : xs.length = 2 := by
    have hlength := hnesting.cyclists.length_eq
    rw [List.length_map] at hlength
    rw [hlength]
    decide +kernel
  have hnumber : ∃ v ∈ xs.map Sighting.view, ∃ p, v.plate = some p ∧ p.number = 42 :=
    hnesting.shows_number.2 (by decide +kernel)
  obtain ⟨items, hread, hitems⟩ := hlisted 42 1 (by decide) hfit
  refine ⟨⟨hconstrained, hr, hfit⟩, xs, hdetail, hnesting, hcyclists, ?_, items, hread, ?_⟩
  · rw [hcolors.length_eq]
    decide +kernel
  · exact hitems.2 ⟨by decide +kernel, hnumber⟩

end Archive

end RaceAlbum
