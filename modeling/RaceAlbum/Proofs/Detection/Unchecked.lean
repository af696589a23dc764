import RaceAlbum.Proofs.Detection.Reports
import RaceAlbum.Proofs.Service.Accepting

/-!
# Detections that nothing was checked of

The rules of the entities hold of themselves. A detection whose form was never checked is refused for the first offence in it,
looked for in the plate and then in the colours, each of which is asked for its share before its piece of equipment; one without
an offence is made into a bundle (`unchecked_detection_ruled`). A share that is no number is on neither side of the range and
offends no rule, although it does not lie in the range (`share_of_no_number_passes`).
-/

namespace RaceAlbum

open Program

/-! ## Offences -/

/-- Why a colour is refused. -/
inductive ColorDetection.Offence (c : ColorDetection) : Failure → Prop where
  | density : ¬c.density.Between 0 100 → c.density ≠ .nan →
      c.Offence (.refused (.broken "photo.density_percentage_out_of_range" false))
  | item : (c.density.Between 0 100 ∨ c.density = .nan) → (∀ item : EquipmentItem, c.item ≠ item.text) →
      c.Offence (.notAMember (.text c.item) "EquipmentItem")

/-- Why a detection is refused: for the number of its plate, or else for the first of its colours that is refused. -/
inductive Detection.Offence (d : Detection) : Failure → Prop where
  | plate {p : PlateDetection} : d.plate = some p → ¬(1 ≤ p.number ∧ p.number ≤ 999) →
      d.Offence (.refused (.broken "photo.plate_number_out_of_range" false))
  | color {before after : List ColorDetection} {c : ColorDetection} {f : Failure} :
      (∀ p ∈ d.plate, 1 ≤ p.number ∧ p.number ≤ 999) → d.colors = before ++ c :: after → (∀ k ∈ before, k.Passes) →
      c.Offence f → d.Offence f

theorem ColorDetection.passes_or_offends (c : ColorDetection) : c.Passes ∨ ∃ f, c.Offence f := by
  by_cases hdensity : c.density.Between 0 100 ∨ c.density = .nan
  · by_cases hitem : ∃ item : EquipmentItem, c.item = item.text
    · exact .inl ⟨hdensity, hitem⟩
    · exact .inr ⟨_, .item hdensity fun item heq => hitem ⟨item, heq⟩⟩
  · rw [not_or] at hdensity
    exact .inr ⟨_, .density hdensity.1 hdensity.2⟩

/-- All colours pass, or there is a first one that offends. -/
theorem passes_or_firstOffence (cs : List ColorDetection) :
    (∀ c ∈ cs, c.Passes) ∨
      ∃ before c after f, cs = before ++ c :: after ∧ (∀ k ∈ before, k.Passes) ∧ c.Offence f := by
  induction cs with
  | nil => exact .inl nofun
  | cons c cs ih =>
    rcases c.passes_or_offends with hc | ⟨f, hf⟩
    · rcases ih with hcs | ⟨before, k, after, f, rfl, hbefore, hf⟩
      · exact .inl (List.forall_mem_cons.2 ⟨hc, hcs⟩)
      · exact .inr ⟨c :: before, k, after, f, rfl, List.forall_mem_cons.2 ⟨hc, hbefore⟩, hf⟩
    · exact .inr ⟨[], c, cs, f, rfl, nofun, hf⟩

theorem Detection.passes_or_offends (d : Detection) : d.Passes ∨ ∃ f, d.Offence f := by
  by_cases hplate : ∀ p ∈ d.plate, 1 ≤ p.number ∧ p.number ≤ 999
  · rcases passes_or_firstOffence d.colors with hcolors | ⟨before, c, after, f, hsplit, hbefore, hf⟩
    · exact .inl ⟨hplate, hcolors⟩
    · exact .inr ⟨f, .color hplate hsplit hbefore hf⟩
  · obtain ⟨p, hp, hnumber⟩ : ∃ p ∈ d.plate, ¬(1 ≤ p.number ∧ p.number ≤ 999) := by
      simpa only [not_forall, exists_prop] using hplate
    exact .inr ⟨_, .plate hp hnumber⟩

/-! ## Runs that end with an offence -/

variable {w : World Tape} {m n : Nat} {f : Failure}

theorem createPlate_refused {p : PlateDetection} (cyclistId : Uuid) (hp : ¬(1 ≤ p.number ∧ p.number ≤ 999)) :
    Plate.create cyclistId p = .failed (.ofRule .plateNumberRange) := by
  have hrange : (!(p.number < plateNumberMin || plateNumberMax < p.number)) = false := by
    rw [Bool.not_eq_false', Bool.or_eq_true, decide_eq_true_eq, decide_eq_true_eq]
    change p.number < 1 ∨ 999 < p.number
    omega
  unfold Plate.create
  exact require_bind_of_not hrange

/-- A colour that offends a rule is refused for that. -/
theorem createColor_refused {c : ColorDetection} (cyclistId : Uuid) (hc : c.Offence f) (hholds : w.supply.Holds m (n + 1)) :
    ∃ w', run taped (EquipmentColor.create cyclistId c) w = (.error f, w') := by
  cases hc with
  | density hbetween hnumber =>
    have hrange : (!(c.density.lt (.ofInt densityMin) || (Binary64.ofInt densityMax).lt c.density)) = false := by
      rw [Bool.eq_false_iff]
      exact fun hfits => (Binary64.fits_iff.1 hfits).elim hbetween hnumber
    refine ⟨w, ?_⟩
    unfold EquipmentColor.create
    rw [require_bind_of_not hrange]
    rfl
  | item hdensity hitem =>
    have hrange : (!(c.density.lt (.ofInt densityMin) || (Binary64.ofInt densityMax).lt c.density)) = true :=
      Binary64.fits_iff.2 hdensity
    have hunknown : EquipmentItem.ofName c.item = .error (.notAMember (.text c.item) "EquipmentItem") := by
      unfold EquipmentItem.ofName
      cases hname : EquipmentItem.ofText? c.item with
      | none => rfl
      | some item => exact absurd (EquipmentItem.ofText?_eq_some hname).symm (hitem item)
    have hholds : w.supply.Holds (0 + m) (1 + n) := by rwa [Nat.zero_add, Nat.add_comm]
    obtain ⟨id, w', hid, -⟩ := Takes.ofTakeId.run hholds
    refine ⟨w', ?_⟩
    unfold EquipmentColor.create
    rw [require_bind_of hrange, hunknown]
    exact (run_bind_of_ok hid).trans rfl

/-- A detection that offends a rule is refused for its first offence. -/
theorem ofDetection_refused {d : Detection} (photoId : Uuid) (hd : d.Offence f)
    (hholds : w.supply.Holds d.entities d.entities) :
    ∃ w', run taped (Bundle.ofDetection photoId d) w = (.error f, w') := by
  have hfirst : w.supply.Holds (1 + (d.plate.toList.length + d.colors.length))
      (1 + (d.plate.toList.length + d.colors.length)) := by
    rw [← Nat.add_assoc]
    exact hholds
  obtain ⟨cyclist, w₁, hcyclist, hleft⟩ := (createCyclist_takes photoId d.box d.confidence).run hfirst
  unfold Bundle.ofDetection
  rw [run_bind_of_ok hcyclist]
  cases hd with
  | plate hp hnumber =>
    refine ⟨w₁, ?_⟩
    rw [hp]
    dsimp only
    rw [createPlate_refused cyclist.id hnumber]
    rfl
  | @color before after c _ hplate hsplit hbefore hc =>
    obtain ⟨plate?, w₂, hplate?, hleft⟩ := (createPlate?_takes cyclist.id hplate).run hleft
    have hall : Takes before.length before.length (forAll (EquipmentColor.create cyclist.id) before) := by
      have htakes := Takes.forAll (fun _ => 1) fun k hk => createColor_takes cyclist.id (hbefore k hk)
      simpa using htakes
    rw [hsplit, List.length_append, List.length_cons] at hleft
    obtain ⟨cs, w₃, hcs, hleft⟩ := hall.run hleft
    obtain ⟨w', hrefused⟩ := createColor_refused cyclist.id hc hleft
    have hrest : run taped (forAll (EquipmentColor.create cyclist.id) d.colors >>= fun cs =>
        pure (Bundle.mk cyclist plate? cs)) w₂ = (.error f, w') := by
      rw [hsplit]
      exact run_bind_of_error (run_forAll_of_error hcs hrefused)
    refine ⟨w', ?_⟩
    cases hp : d.plate with
    | none =>
      rw [hp] at hplate?
      obtain ⟨hnone, rfl⟩ := Prod.mk.inj hplate?
      cases hnone
      exact hrest
    | some p =>
      rw [hp] at hplate?
      exact (run_bind_of_ok hplate?).trans hrest

/-! ## The rules by themselves -/

/-- The rules of the entities hold of every detection, whatever its values, with or without a check of its form, wherever the
clock and the source of identifiers answer. It is refused exactly if it offends a rule, for its first offence, in the order
plate, then colours in their order, the share of a colour before its piece of equipment; and a bundle is made of it exactly if
nothing in it offends. The number of the plate of a bundle lies in the range, and the share of each of its colours does so or
is no number. -/
theorem unchecked_detection_ruled (photoId : Uuid) (d : Detection) (hholds : w.supply.Holds d.entities d.entities) :
    LooseDetection.bundle photoId d.loose = Bundle.loose <$> Bundle.ofDetection photoId d ∧
    (∀ f, (run taped (Bundle.ofDetection photoId d) w).1 = .error f ↔ d.Offence f) ∧
    ((∃ b, (run taped (Bundle.ofDetection photoId d) w).1 = .ok b) ↔ d.Passes) ∧
    ∀ b, (run taped (Bundle.ofDetection photoId d) w).1 = .ok b → b.Mirrors photoId d ∧
      (∀ p ∈ b.plate, 1 ≤ p.number ∧ p.number ≤ 999) ∧ ∀ c ∈ b.colors, c.density.Between 0 100 ∨ c.density = .nan := by
  have hok (hd : d.Passes) : ∃ b, (run taped (Bundle.ofDetection photoId d) w).1 = .ok b := by
    have hholds : w.supply.Holds (d.entities + 0) (d.entities + 0) := hholds
    obtain ⟨b, w', hrun, -⟩ := (ofDetection_takes photoId hd).run hholds
    exact ⟨b, congrArg Prod.fst hrun⟩
  have herror {f : Failure} (hd : d.Offence f) : (run taped (Bundle.ofDetection photoId d) w).1 = .error f := by
    obtain ⟨w', hrun⟩ := ofDetection_refused photoId hd hholds
    exact congrArg Prod.fst hrun
  have hpasses {b : Bundle} (hb : (run taped (Bundle.ofDetection photoId d) w).1 = .ok b) : d.Passes := by
    rcases d.passes_or_offends with hd | ⟨f, hd⟩
    · exact hd
    · cases hb.symm.trans (herror hd)
  refine ⟨bundle_loose photoId d, fun f => ⟨fun hf => ?_, herror⟩, ⟨fun ⟨b, hb⟩ => hpasses hb, hok⟩, fun b hb => ?_⟩
  · rcases d.passes_or_offends with hd | ⟨g, hd⟩
    · obtain ⟨b, hb⟩ := hok hd
      cases hb.symm.trans hf
    · cases (herror hd).symm.trans hf
      exact hd
  · have hd := hpasses hb
    have hrun : run taped (Bundle.ofDetection photoId d) w = (.ok b, (run taped (Bundle.ofDetection photoId d) w).2) :=
      Prod.ext hb rfl
    obtain ⟨-, hmirrors⟩ := ofDetection_ok hrun
    refine ⟨hmirrors, fun p hp => ?_, fun c hc => ?_⟩
    · obtain ⟨q, hq, hpq⟩ := exists_of_rel hmirrors.plate hp
      rw [hpq.number]
      exact hd.plateNumber q hq
    · obtain ⟨k, hk, hck⟩ := exists_of_forall₂ hmirrors.colors hc
      rw [hck.density]
      exact (hd.colors k hk).density

/-- Of two colours that offend, the first is what a detection is refused for, after one that offends no rule. -/
theorem unknown_item_refused :
    let d : Detection := ⟨[], .infinity true, some ⟨999, some .nan⟩,
      [⟨"bike", "", "", .ofParts true 0 0⟩, ⟨"shoe", "", "", .ofInt 100⟩, ⟨"shoe", "", "", .ofInt 101⟩]⟩
    let w := World.fresh 5
    w.supply.Holds d.entities d.entities ∧
    (run taped (Bundle.ofDetection (.ofNat 9) d) w).1 = .error (.notAMember (.text "shoe") "EquipmentItem") := by
  intro d w
  have hholds : w.supply.Holds d.entities d.entities := by decide
  have hpasses : ColorDetection.Passes ⟨"bike", "", "", .ofParts true 0 0⟩ := ⟨.inl (by decide +kernel), .bike, rfl⟩
  have hoffence : ColorDetection.Offence ⟨"shoe", "", "", .ofInt 100⟩ (.notAMember (.text "shoe") "EquipmentItem") :=
    .item (.inl (by decide +kernel)) (by
      intro item
      cases item with
      | helmet => decide
      | jersey => decide
      | bike => decide)
  have hfirst : d.Offence (.notAMember (.text "shoe") "EquipmentItem") :=
    .color (fun p hp => by cases hp; decide) rfl (List.forall_mem_singleton.2 hpasses) hoffence
  obtain ⟨-, herror, -⟩ := unchecked_detection_ruled (.ofNat 9) d hholds
  exact ⟨hholds, (herror _).2 hfirst⟩

/-- A share that is no number does not lie in the range, and yet a bundle is made with it. -/
theorem share_of_no_number_passes :
    let d : Detection := ⟨[], .ofInt 1, none, [⟨"helmet", "red", "#FF0000", .nan⟩]⟩
    ∃ (b : Bundle) (w' : World Tape), run taped (LooseDetection.bundle (.ofNat 9) d.loose) (.fresh 2) = (.ok b.loose, w') ∧
      ∃ c ∈ b.colors, ¬c.density.Between 0 100 := by
  intro d
  have hpasses : d.Passes := ⟨nofun, List.forall_mem_singleton.2 ⟨.inr rfl, .helmet, rfl⟩⟩
  have hholds : (World.fresh 2).supply.Holds (d.entities + 0) (d.entities + 0) := by decide
  obtain ⟨b, w', hrun, -⟩ := (ofDetection_takes (.ofNat 9) hpasses).run hholds
  obtain ⟨-, hmirrors⟩ := ofDetection_ok hrun
  obtain ⟨c, cs, hc, -, hcolors⟩ := List.forall₂_cons_right_iff.1 hmirrors.colors
  refine ⟨b, w', ?_, c, hcolors ▸ List.mem_cons_self, ?_⟩
  · rw [bundle_loose]
    exact (run_bind_of_ok hrun).trans rfl
  · rw [hc.density]
    exact fun hbetween => hbetween.ne_nan rfl

end RaceAlbum
