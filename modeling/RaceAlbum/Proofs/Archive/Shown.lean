import Mathlib.Data.List.Nodup
import RaceAlbum.Archive.Queries
import RaceAlbum.Proofs.Archive.Batches
import RaceAlbum.Proofs.Detection.Ranges
import RaceAlbum.Proofs.Service.Entities

/-!
# What is read back of a detection

A detection is kept as a row of a cyclist, at most one row of a plate and some rows of colours, which are found by the
identifier of the cyclist (`CyclistRow.Keeps`). Where the colours stand in the order of their creation, the cyclist is shown
as it was reported, with its numbers rounded (`CyclistView.Shows`). A classification keeps its detections, and what it adds
and what a deletion takes away touches no other cyclist.
-/

namespace RaceAlbum

/-- A plate as it is to be shown. -/
def PlateDetection.shown (p : PlateDetection) : PlateView :=
  ⟨p.number, p.confidence.map fun x => x.withoutZeroSign.roundPlaces 4, false⟩

/-- A colour as it is to be shown. -/
def ColorDetection.shown (c : ColorDetection) : ColorView :=
  ⟨c.item, c.name, c.hex, c.density.withoutZeroSign.roundPlaces 2⟩

/-- A cyclist is shown as it was reported: in its box, with its confidence to four decimals, with its plate, if it has one,
and with its colours in their order. No zero has a sign. -/
structure CyclistView.Shows (v : CyclistView) (d : Detection) : Prop where
  box : v.box = d.box
  confidence : v.confidence = d.confidence.withoutZeroSign.roundPlaces 4
  plate : v.plate = d.plate.map PlateDetection.shown
  colors : v.colors = d.colors.map ColorDetection.shown

/-- The row of a cyclist, with the rows of plates and colours that refer to it, keeps what was reported. -/
structure CyclistRow.Keeps (a : Archive) (r : CyclistRow) (d : Detection) : Prop where
  box : r.box = d.box
  confidence : r.confidence = d.confidence.withoutZeroSign
  plates : (a.plates.filter fun s => s.cyclistId == r.id).map PlateRow.view = d.plate.toList.map PlateDetection.shown
  colors : (a.colors.filter fun s => s.cyclistId == r.id).map ColorRow.view = d.colors.map ColorDetection.shown

/-- Rows in the order of their keys are sorted. -/
theorem sortByKey_eq_self {α : Type} {key : α → Nat} {xs : List α} (h : xs.Pairwise fun x y => key x < key y) :
    Archive.sortByKey key xs = xs :=
  List.mergeSort_of_pairwise (h.imp fun hlt => decide_eq_true (Nat.le_of_lt hlt))

namespace CyclistRow.Keeps

variable {a a' : Archive} {d : Detection} {r : CyclistRow}

/-- Where the rows that refer to a cyclist stay, so does what is kept of it. -/
theorem of_sameParts (h : r.Keeps a d)
    (hplates : (a'.plates.filter fun s => s.cyclistId == r.id) = a.plates.filter fun s => s.cyclistId == r.id)
    (hcolors : (a'.colors.filter fun s => s.cyclistId == r.id) = a.colors.filter fun s => s.cyclistId == r.id) :
    r.Keeps a' d :=
  ⟨h.box, h.confidence, hplates ▸ h.plates, hcolors ▸ h.colors⟩

/-- What is kept is shown, where the colours stand in the order of their creation. -/
theorem shows (h : r.Keeps a d) (hcolors : a.colors.Pairwise fun s t => s.createdAt.key < t.createdAt.key) :
    (a.cyclistView r).Shows d where
  box := h.box
  confidence := congrArg (Binary64.roundPlaces 4) h.confidence
  plate := by
    have hfirst := congrArg List.head? h.plates
    rw [List.head?_map, List.head?_filter] at hfirst
    change (a.plates.find? _).map _ = _
    rw [hfirst]
    cases d.plate <;> rfl
  colors := by
    have hsorted : a.colorsOf r.id = a.colors.filter fun s => s.cyclistId == r.id :=
      sortByKey_eq_self (hcolors.filter _)
    change (a.colorsOf r.id).map _ = _
    rw [hsorted, h.colors]

end CyclistRow.Keeps

/-! ## What a classification adds -/

/-- Rows at the end that a filter does not let pass are as good as not there. -/
theorem filter_append_of_right {α : Type} {p : α → Bool} {xs ys : List α} (h : ∀ y ∈ ys, ¬p y = true) :
    (xs ++ ys).filter p = xs.filter p := by
  rw [List.filter_append, List.filter_eq_nil_iff.2 h, List.append_nil]

/-- Rows in front that a filter does not let pass are as good as not there. -/
theorem filter_append_of_left {α : Type} {p : α → Bool} {xs ys : List α} (h : ∀ x ∈ xs, ¬p x = true) :
    (xs ++ ys).filter p = ys.filter p := by
  rw [List.filter_append, List.filter_eq_nil_iff.2 h, List.nil_append]

/-- A filter that looks at keys and lets a key pass leaves the rows of that key. -/
theorem filter_filter_of_key {ρ : Type} {key : ρ → Uuid} (passes : Uuid → Bool) {rows : List ρ} {id : Uuid}
    (h : passes id = true) :
    (rows.filter fun s => passes (key s)).filter (fun s => key s == id) = rows.filter fun s => key s == id := by
  rw [List.filter_filter]
  refine List.filter_congr fun s _ => ?_
  by_cases hs : key s = id
  · simp [hs, h]
  · simp [hs]

/-- Of rows that are added to rows of other keys, those of a key are the rows of what has it. -/
theorem filter_new_rows {ρ γ : Type} {key : ρ → Uuid} {row : γ → ρ} {old : List ρ} {new : List γ} {id : Uuid}
    (hold : ∀ s ∈ old, key s ≠ id) :
    (old ++ new.map row).filter (fun s => key s == id) = (new.filter fun c => key (row c) == id).map row := by
  rw [filter_append_of_left fun s hs heq => hold s hs (beq_iff_eq.1 heq), List.filter_map]
  rfl

/-- Partners that look alike give the same list. -/
theorem map_eq_map_of_forall₂ {β γ δ : Type} {R : β → γ → Prop} {f : β → δ} {g : γ → δ} {bs : List β} {cs : List γ}
    (h : List.Forall₂ R bs cs) (hfg : ∀ b ∈ bs, ∀ c ∈ cs, R b c → f b = g c) : bs.map f = cs.map g := by
  rw [← List.forall₂_eq_eq_eq, List.forall₂_map_left_iff, List.forall₂_map_right_iff]
  exact forall₂_imp_of_mem h hfg

/-- What is there or not there as a list. -/
theorem forall₂_toList {β γ : Type} {R : β → γ → Prop} {b? : Option β} {c? : Option γ} (h : Option.Rel R b? c?) :
    List.Forall₂ R b?.toList c?.toList := by
  cases h with
  | some hR => exact .cons hR .nil
  | none => exact .nil

/-- Of parts that have the key of their whole, those of one key are the parts of that whole. -/
theorem filter_flatMap_of_keys {β γ : Type} {key : β → Uuid} {part : γ → Uuid} {parts : β → List γ} {bs : List β}
    (hparts : ∀ b ∈ bs, ∀ c ∈ parts b, part c = key b) (hkeys : (bs.map key).Nodup) {b : β} (hb : b ∈ bs) :
    (bs.flatMap parts).filter (fun c => part c == key b) = parts b := by
  induction bs with
  | nil => cases hb
  | cons b₁ bs ih =>
    obtain ⟨hfirst, hkeys⟩ := List.nodup_cons.1 hkeys
    obtain ⟨hown, hrest⟩ := List.forall_mem_cons.1 hparts
    rw [List.flatMap_cons, List.filter_append]
    rcases List.mem_cons.1 hb with rfl | hb
    · have hall : (parts b).filter (fun c => part c == key b) = parts b := by
        rw [List.filter_eq_self]
        exact fun c hc => beq_iff_eq.2 (hown c hc)
      have hothers : (bs.flatMap parts).filter (fun c => part c == key b) = [] := by
        rw [List.filter_eq_nil_iff]
        intro c hc heq
        obtain ⟨b₂, hb₂, hc⟩ := List.mem_flatMap.1 hc
        exact hfirst (List.mem_map.2 ⟨b₂, hb₂, (hrest b₂ hb₂ c hc).symm.trans (beq_iff_eq.1 heq)⟩)
      rw [hall, hothers, List.append_nil]
    · have hothers : (parts b₁).filter (fun c => part c == key b) = [] := by
        rw [List.filter_eq_nil_iff]
        intro c hc heq
        exact hfirst (List.mem_map.2 ⟨b, hb, (beq_iff_eq.1 heq).symm.trans (hown c hc)⟩)
      rw [hothers, List.nil_append, ih hrest hkeys hb]

/-- What was made of a plate is shown as it was reported. -/
theorem Plate.Mirrors.view {cyclistId : Uuid} {p : Plate} {d : PlateDetection} (h : p.Mirrors cyclistId d)
    (hconfidence : ∀ x ∈ d.confidence, x.Between 0 1) : (PlateRow.ofEntity p).view = d.shown := by
  have hkept : d.confidence.filter (· != Binary64.nan) = d.confidence := by
    cases hx : d.confidence with
    | none => rfl
    | some x =>
      have hne : x ≠ .nan := by
        rintro rfl
        cases (hconfidence _ hx).2
      simp [hne]
  simp [PlateRow.view, PlateRow.ofEntity, PlateRow.shownConfidence, PlateDetection.shown, confidencePlaces, h.number,
    h.confidence, h.uncorrected, hkept, Function.comp_def]

/-- What was made of a colour is shown as it was reported. -/
theorem EquipmentColor.Mirrors.view {cyclistId : Uuid} {c : EquipmentColor} {d : ColorDetection}
    (h : c.Mirrors cyclistId d) : (ColorRow.ofEntity c).view = d.shown := by
  simp [ColorRow.view, ColorRow.ofEntity, ColorRow.shownDensity, ColorDetection.shown, densityPlaces, h.item, h.name,
    h.hex, h.density]

namespace Archive

variable {a : Archive} {p : PhotoRow} {bs : List Bundle} {photoId : Uuid}

/-- What is kept of a cyclist that none of the bundles has is not touched by them. -/
theorem keeps_classified_of_other {d : Detection} {r : CyclistRow} (h : r.Keeps a d)
    (hplates : ∀ b ∈ bs, ∀ q ∈ b.plate, q.cyclistId ≠ r.id) (hcolors : ∀ b ∈ bs, ∀ c ∈ b.colors, c.cyclistId ≠ r.id) :
    r.Keeps (a.classified p bs) d := by
  refine h.of_sameParts ?_ ?_
  · refine filter_append_of_right fun s hs heq => ?_
    obtain ⟨q, hq, rfl⟩ := List.mem_map.1 hs
    obtain ⟨b, hb, hq⟩ := List.mem_filterMap.1 hq
    exact hplates b hb q hq (beq_iff_eq.1 heq)
  · refine filter_append_of_right fun s hs heq => ?_
    obtain ⟨c, hc, rfl⟩ := List.mem_map.1 hs
    obtain ⟨b, hb, hc⟩ := List.mem_flatMap.1 hc
    exact hcolors b hb c hc (beq_iff_eq.1 heq)

/-- The plates of a cyclist after a classification that added it. -/
theorem platesOf_classified {b : Bundle} (hb : b ∈ bs) (hbs : ∀ b ∈ bs, ∀ q ∈ b.plate, q.cyclistId = b.cyclist.id)
    (hids : (bs.map fun b => b.cyclist.id).Nodup) (hold : ∀ s ∈ a.plates, s.cyclistId ≠ b.cyclist.id) :
    ((a.classified p bs).plates.filter fun s => s.cyclistId == b.cyclist.id) = b.plate.toList.map .ofEntity := by
  have hnew : (bs.filterMap Bundle.plate).filter (fun q => q.cyclistId == b.cyclist.id) = b.plate.toList := by
    rw [List.filterMap_eq_flatMap_toList]
    exact filter_flatMap_of_keys (fun b hb q hq => hbs b hb q (Option.mem_toList.1 hq)) hids hb
  exact (filter_new_rows hold).trans (congrArg _ hnew)

/-- The colours of a cyclist after a classification that added it. -/
theorem colorsOf_classified {b : Bundle} (hb : b ∈ bs) (hbs : ∀ b ∈ bs, ∀ c ∈ b.colors, c.cyclistId = b.cyclist.id)
    (hids : (bs.map fun b => b.cyclist.id).Nodup) (hold : ∀ s ∈ a.colors, s.cyclistId ≠ b.cyclist.id) :
    ((a.classified p bs).colors.filter fun s => s.cyclistId == b.cyclist.id) = b.colors.map .ofEntity :=
  (filter_new_rows hold).trans (congrArg _ (filter_flatMap_of_keys hbs hids hb))

/-- What was made of a detection is kept as that, where the cyclists that were made have identifiers of their own. -/
theorem keeps_classified_of_mem {d : Detection} {b : Bundle} (hb : b ∈ bs) (hbd : b.Mirrors photoId d) (hd : d.InRange)
    (hbs : ∀ b ∈ bs, (∀ q ∈ b.plate, q.cyclistId = b.cyclist.id) ∧ ∀ c ∈ b.colors, c.cyclistId = b.cyclist.id)
    (hids : (bs.map fun b => b.cyclist.id).Nodup) (hplates : ∀ s ∈ a.plates, s.cyclistId ≠ b.cyclist.id)
    (hcolors : ∀ s ∈ a.colors, s.cyclistId ≠ b.cyclist.id) :
    (CyclistRow.ofEntity b.cyclist).Keeps (a.classified p bs) d where
  box := hbd.box
  confidence := congrArg Binary64.withoutZeroSign hbd.confidence
  plates := by
    change ((a.classified p bs).plates.filter fun s => s.cyclistId == b.cyclist.id).map _ = _
    rw [platesOf_classified hb (fun b hb => (hbs b hb).1) hids hplates, List.map_map]
    exact map_eq_map_of_forall₂ (forall₂_toList hbd.plate) fun q _ e he hqe =>
      hqe.view (hd.plateConfidence e (Option.mem_toList.1 he))
  colors := by
    change ((a.classified p bs).colors.filter fun s => s.cyclistId == b.cyclist.id).map _ = _
    rw [colorsOf_classified hb (fun b hb => (hbs b hb).2) hids hcolors, List.map_map]
    exact map_eq_map_of_forall₂ hbd.colors fun c _ e _ hce => hce.view

/-! ## What a deletion leaves -/

/-- The cyclist of another photo is none of a photo, where cyclists have identifiers of their own. -/
theorem photoHasCyclist_eq_false {id : Uuid} {r : CyclistRow} (hids : (a.cyclists.map CyclistRow.id).Nodup)
    (hr : r ∈ a.cyclists) (hother : r.photoId ≠ id) : a.photoHasCyclist id r.id = false := by
  simp only [photoHasCyclist, ofPhoto, List.any_eq_false, Bool.and_eq_true, beq_iff_eq, not_and]
  intro c hc hphoto hid
  rw [List.inj_on_of_nodup_map hids hc hr hid] at hphoto
  exact hother hphoto

/-- What is kept of the cyclists of other photos is not touched by the deletion of a photo. -/
theorem keeps_deleted {a' : Archive} {id : Uuid} {d : Detection} {r : CyclistRow} (h : r.Keeps a d)
    (hids : (a.cyclists.map CyclistRow.id).Nodup) (hr : r ∈ a.cyclists) (hother : r.photoId ≠ id)
    (hdelete : a.deletePhoto id = .ok a') : r.Keeps a' d := by
  have hstays : (!a.photoHasCyclist id r.id) = true := by
    rw [photoHasCyclist_eq_false hids hr hother, Bool.not_false]
  rw [deletePhoto_ok hdelete]
  exact h.of_sameParts (filter_filter_of_key (fun i => !a.photoHasCyclist id i) hstays)
    (filter_filter_of_key (fun i => !a.photoHasCyclist id i) hstays)

end Archive

end RaceAlbum
