import RaceAlbum.Proofs.Archive.Consistent
import RaceAlbum.Proofs.Archive.Transaction

/-!
# What statements leave together

The photos of an upload are added one after the other (`storePhotos_made`). A classification marks its photo and adds the
rows of what was seen after the rows that are there, in the order in which it was reported (`classification_made`). Where the
rows are sound, the archive stays consistent.
-/

namespace RaceAlbum

variable {a a' : Archive}

/-- What statements of one kind do together, where `f` says what they do to an archive and each does its part of it. -/
theorem Made.eq_of_map {ι : Type} {s : ι → Statement} {f : List ι → Archive → Archive} {is : List ι}
    (h : Made a (is.map s) a') (hnil : ∀ a, f [] a = a)
    (hcons : ∀ i is a a₁, s i a = .ok a₁ → f is a₁ = f (i :: is) a) : a' = f is a := by
  induction is generalizing a with
  | nil => rw [made_nil_iff.1 h, hnil]
  | cons i is ih =>
    obtain ⟨a₁, hs, h⟩ := made_cons_iff.1 h
    rw [ih h, hcons i is a a₁ hs]

/-- The rows of a cyclist with its plate and its colours are sound. -/
structure Bundle.Sound (b : Bundle) : Prop where
  cyclist : (CyclistRow.ofEntity b.cyclist).Sound
  plate : ∀ p ∈ b.plate, (PlateRow.ofEntity p).Sound
  colors : ∀ c ∈ b.colors, (ColorRow.ofEntity c).Sound

namespace Archive

/-! ## Uploads -/

/-- Photos whose identifiers are new and differ are added in their order. -/
theorem storePhotos_made {ps : List Photo} (h : Made a (ps.map fun p a => a.storePhoto p) a')
    (hnodup : (ps.map Photo.id).Nodup) (hnew : ∀ p ∈ ps, ∀ r ∈ a.photos, r.id ≠ p.id) :
    a' = { a with photos := a.photos ++ ps.map .ofEntity } := by
  induction ps generalizing a with
  | nil => simp [made_nil_iff.1 h]
  | cons p ps ih =>
    obtain ⟨a₁, hp, h⟩ := made_cons_iff.1 h
    obtain ⟨hfirst, hnodup⟩ := List.nodup_cons.1 hnodup
    obtain ⟨hnewp, hnew⟩ := List.forall_mem_cons.1 hnew
    obtain ⟨rfl, -, -⟩ := savePhoto_ok (storePhoto_eq_ok_iff.1 hp)
    have hput : upsert PhotoRow.id (.ofEntity p) a.photos = a.photos ++ [.ofEntity p] := upsert_of_new hnewp
    rw [hput] at h
    rw [ih h hnodup ?_]
    · simp
    · intro q hq r hr
      rcases List.mem_append.1 hr with hr | hr
      · exact hnew q hq r hr
      · rw [List.mem_singleton.1 hr]
        exact fun heq : p.id = q.id => hfirst (heq ▸ List.mem_map_of_mem hq)

/-! ## Classifications -/

/-- The archive with the rows that a classification adds. -/
def withBundles (a : Archive) (bs : List Bundle) : Archive :=
  { a with
    cyclists := a.cyclists ++ bs.map fun b => .ofEntity b.cyclist
    plates := a.plates ++ (bs.filterMap Bundle.plate).map .ofEntity
    colors := a.colors ++ (bs.flatMap Bundle.colors).map .ofEntity }

/-- The archive after a classification of a photo: its row is marked and all that was seen is added. -/
def classified (a : Archive) (p : PhotoRow) (bs : List Bundle) : Archive :=
  { a with photos := a.photos.map (mark p.id p.status p.unclassifiedReason p.processedAt) }.withBundles bs

/-- The statements of a classification, kind by kind. -/
theorem classification_eq (p : PhotoRow) (bs : List Bundle) :
    classification p bs = (fun a => a.markPhoto p.id p.status p.unclassifiedReason p.processedAt) ::
      (bs.map (fun b a => a.addCyclist (.ofEntity b.cyclist)) ++
        (bs.flatMap Bundle.colors).map (fun c a => a.addColor (.ofEntity c)) ++
        (bs.filterMap Bundle.plate).map (fun p a => a.addPlate (.ofEntity p))) := by
  simp only [classification, List.map_flatMap, List.map_filterMap]

/-- A classification that is recorded marks its photo and adds the rows of what was seen. -/
theorem classification_made {p : PhotoRow} {bs : List Bundle} (h : Made a (classification p bs) a') :
    a' = a.classified p bs := by
  rw [classification_eq, made_cons_iff] at h
  obtain ⟨a₁, hmark, h⟩ := h
  obtain ⟨a₃, h, hplates⟩ := made_append_iff.1 h
  obtain ⟨a₂, hcyclists, hcolors⟩ := made_append_iff.1 h
  have h₂ := hcyclists.eq_of_map (f := fun bs a => { a with
    cyclists := a.cyclists ++ bs.map fun b => .ofEntity b.cyclist }) (by simp) fun b bs a a₁ hs => by
      simp [(addCyclist_ok hs).1]
  have h₃ := hcolors.eq_of_map (f := fun cs a => { a with
    colors := a.colors ++ cs.map .ofEntity }) (by simp) fun c cs a a₁ hs => by simp [(addColor_ok hs).1]
  have h₄ := hplates.eq_of_map (f := fun ps a => { a with
    plates := a.plates ++ ps.map .ofEntity }) (by simp) fun p ps a a₁ hs => by simp [(addPlate_ok hs).1]
  rw [h₄, h₃, h₂, markPhoto_ok hmark]
  rfl

/-- Recording what was seen on a photo, which is then marked as classified, keeps an archive consistent. -/
theorem Consistent.classification {p : PhotoRow} {bs : List Bundle} {m : Moment} (ha : a.Consistent)
    (hbs : ∀ b ∈ bs, b.Sound) (h : Made a (classification (p.classifiedAt m) bs) a') : a'.Consistent := by
  refine h.keeps (P := Consistent) (fun s hs b b' hb hmade => ?_) ha
  rw [classification_eq, List.mem_cons, List.mem_append, List.mem_append] at hs
  rcases hs with rfl | (hs | hs) | hs
  · exact hb.markPhoto hmade
  · obtain ⟨bundle, hbundle, rfl⟩ := List.mem_map.1 hs
    exact hb.addCyclist (hbs bundle hbundle).cyclist hmade
  · obtain ⟨c, hc, rfl⟩ := List.mem_map.1 hs
    obtain ⟨bundle, hbundle, hc⟩ := List.mem_flatMap.1 hc
    exact hb.addColor ((hbs bundle hbundle).colors c hc) hmade
  · obtain ⟨q, hq, rfl⟩ := List.mem_map.1 hs
    obtain ⟨bundle, hbundle, hq⟩ := List.mem_filterMap.1 hq
    exact hb.addPlate ((hbs bundle hbundle).plate q hq) hmade

end Archive

end RaceAlbum
