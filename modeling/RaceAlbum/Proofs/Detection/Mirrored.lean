import RaceAlbum.Proofs.Archive.Shown
import RaceAlbum.Proofs.Schema.ReadBack
import RaceAlbum.Proofs.Service.Accepting

/-!
# Bundles mirror the detections they are made of

The form of detections and the rules of the entities have their limits written down twice, as comparisons of either
direction. They agree: whatever the form accepts is made into a bundle, which says what was reported, and shown from its row
the bundle is the detection again, value for value (`accepted_detection_mirrored`).
-/

namespace RaceAlbum

open Program

/-! ## Views -/

/-- A plate as it is shown before any table has rounded its numbers. -/
def Plate.view (p : Plate) : PlateView := ⟨p.number, p.confidence, p.manuallyCorrected⟩

/-- A colour as it is shown before any table has rounded its numbers. -/
def EquipmentColor.view (c : EquipmentColor) : ColorView := ⟨c.item.text, c.name, c.hex, c.density⟩

/-- A cyclist as it is shown before any table has rounded its numbers. -/
def Bundle.view (b : Bundle) : CyclistView :=
  ⟨b.cyclist.id, b.cyclist.box, b.cyclist.confidence, b.plate.map Plate.view, b.colors.map EquipmentColor.view⟩

/-- A detection as a cyclist of an identifier is to be shown, whose plate nobody has corrected. -/
def Detection.view (d : Detection) (cyclistId : Uuid) : CyclistView :=
  ⟨cyclistId, d.box, d.confidence, d.plate.map fun p => ⟨p.number, p.confidence, false⟩,
    d.colors.map fun c => ⟨c.item, c.name, c.hex, c.density⟩⟩

/-- What looks alike, if it is there, is alike. -/
theorem map_eq_map_of_rel {α β γ : Type} {R : α → β → Prop} {f : α → γ} {g : β → γ} {a? : Option α} {b? : Option β}
    (h : Option.Rel R a? b?) (hfg : ∀ a b, R a b → f a = g b) : a?.map f = b?.map g := by
  cases h with
  | some hab => exact congrArg some (hfg _ _ hab)
  | none => rfl

/-- A bundle that mirrors a detection is shown as the detection. -/
theorem Bundle.Mirrors.view_eq {photoId : Uuid} {b : Bundle} {d : Detection} (h : b.Mirrors photoId d) :
    b.view = d.view b.cyclist.id := by
  have hplate : b.plate.map Plate.view = d.plate.map fun p => ⟨p.number, p.confidence, false⟩ :=
    map_eq_map_of_rel h.plate fun q p hqp => by simp [Plate.view, hqp.number, hqp.confidence, hqp.uncorrected]
  have hcolors : b.colors.map EquipmentColor.view = d.colors.map fun c => ⟨c.item, c.name, c.hex, c.density⟩ :=
    map_eq_map_of_forall₂ h.colors fun c _ k _ hck => by
      simp [EquipmentColor.view, hck.item, hck.name, hck.hex, hck.density]
  simp [Bundle.view, Detection.view, h.box, h.confidence, hplate, hcolors]

/-! ## Rows -/

namespace LooseRow

/-- A score that is a number or missing stays as it is. -/
theorem score_ofOption (x? : Option Binary64) : score (.ofOption .float x?) = .ok (.ofOption .float x?) := by
  cases x? with
  | none => rfl
  | some x => rfl

theorem plateView_row (p : Plate) : plateView p.row = .ok p.view := by
  have hconfidence : keepScore p.row "confidence_score" = .ok ("confidence_score", .ofOption .float p.confidence) := by
    change (score (.ofOption .float p.confidence)).map _ = _
    rw [score_ofOption]
    rfl
  have hread : PlateView.form.read [p.row.keep "number", ("confidence_score", .ofOption .float p.confidence),
      ("manually_corrected", .bool p.manuallyCorrected)] = .ok p.view := plateView_read rfl rfl rfl
  rw [plateView, hconfidence]
  exact congrArg (Checked.toExcept .value) hread

theorem colorView_row (c : EquipmentColor) : colorView c.row = .ok c.view := by
  have hread : ColorView.form.read [c.row.keep "item_type", c.row.keep "color_name", c.row.keep "color_hex",
      ("density_percentage", .float c.density)] = .ok c.view := colorView_read rfl rfl rfl rfl
  exact congrArg (Checked.toExcept .value) hread

/-- Where all items of a list give a result, so does the list. -/
theorem mapM_ok {α β γ : Type} {f : α → Except Failure β} {g : γ → α} {k : γ → β} (h : ∀ c, f (g c) = .ok (k c))
    (cs : List γ) : (cs.map g).mapM f = .ok (cs.map k) := by
  induction cs with
  | nil => rfl
  | cons c cs ih =>
    rw [List.map_cons, List.mapM_cons, h, ih]
    rfl

/-- The row of a bundle is shown as the bundle. -/
theorem cyclistView_row (b : Bundle) : cyclistView b.row = .ok b.view := by
  have hplate : (b.row.row? "plate_number").mapM plateView = .ok (b.plate.map Plate.view) := by
    have hrow : b.row.row? "plate_number" = b.plate.map Plate.row := row?_of_column rfl
    rw [hrow]
    cases b.plate with
    | none => rfl
    | some p =>
      change some <$> plateView p.row = _
      rw [plateView_row]
      rfl
  have hcolors : (b.row.rows "equipment_colors").mapM colorView = .ok (b.colors.map EquipmentColor.view) := by
    have hrows : b.row.rows "equipment_colors" = b.colors.map EquipmentColor.row := rows_of_column rfl
    rw [hrows]
    exact mapM_ok colorView_row b.colors
  have hread : CyclistView.form.read [b.row.keep "id", ("bounding_box", BoundingBox.value b.cyclist.box),
      ("confidence_score", .float b.cyclist.confidence),
      ("plate_number", .ofOption PlateView.form.value (b.plate.map Plate.view)),
      ("equipment_colors", .list ((b.colors.map EquipmentColor.view).map ColorView.form.value))] = .ok b.view :=
    cyclistView_read rfl rfl rfl rfl rfl
  have hbox : b.row.keepBox = .ok ("bounding_box", BoundingBox.value b.cyclist.box) := rfl
  have hconfidence : b.row.keepScore "confidence_score" = .ok ("confidence_score", .float b.cyclist.confidence) := rfl
  rw [cyclistView, hplate, hcolors, hbox, hconfidence]
  exact congrArg (Checked.toExcept .value) hread

end LooseRow

/-! ## What is made of a detection -/

/-- What the form of detections accepts, the rules of the entities accept: wherever the clock and the source of identifiers
answer, a bundle is made of the detection, and no other answer is needed. The bundle mirrors the detection: its cyclist has the
box and the confidence and belongs to the photo, it has a plate where the detection has one, which nobody has corrected, and it
has the colours in their order; all parts refer to the cyclist. Its identifiers differ from each other if those that were given
do. Its row is shown as what was reported, value for value. -/
theorem accepted_detection_mirrored {v : Value} {d : Detection} {w : World Tape} (photoId : Uuid)
    (haccepted : Detection.form.reader v = .ok d) (hholds : w.supply.Holds d.entities d.entities) :
    ∃ b w', run taped (Bundle.ofDetection photoId d) w = (.ok b, w') ∧ b.Mirrors photoId d ∧
      (w.supply.ids.Nodup → b.ids.Nodup) ∧ LooseRow.cyclistView b.row = .ok (d.view b.cyclist.id) := by
  obtain ⟨fields, hread⟩ := Form.reader_ok haccepted
  obtain ⟨hrange, hnamed⟩ := detection_inRange hread
  have hholds : w.supply.Holds (d.entities + 0) (d.entities + 0) := hholds
  obtain ⟨b, w', hrun, -⟩ := (ofDetection_takes photoId (hrange.passes hnamed)).run hholds
  obtain ⟨⟨ms, us, hdrew, hids, -⟩, hmirrors⟩ := ofDetection_ok hrun
  refine ⟨b, w', hrun, hmirrors, fun hdistinct => ?_, ?_⟩
  · have hgiven : us.Sublist w.supply.ids := by
      rw [hdrew.reads.ids]
      exact List.sublist_append_left _ _
    exact hdistinct.sublist (hids.trans hgiven)
  · rw [LooseRow.cyclistView_row, hmirrors.view_eq]

/-- A report with numbers at both ends of their ranges, a zero below zero among them, and with a box that goes on without end. -/
def edgeReport : Fields :=
  [("boundingBox", .object [("x", .float .nan), ("w", .float (.infinity true))]), ("confidence_score", .int 0),
   ("plateNumber", .object [("number", .text " 999 "), ("confidenceScore", .bool true)]),
   ("colors", .list
    [.object [("itemType", .text "bike"), ("colorName", .text "red"), ("colorHex", .text "#F00"),
      ("densityPercentage", .float (.ofParts true 0 0))],
     .object [("item_type", .text "bike"), ("color_name", .text "red"), ("color_hex", .text "#F00"),
      ("density_percentage", .int 100)]])]

/-- The detection of the report. -/
def edgeReported : Detection where
  box := [("x", .nan), ("w", .infinity true)]
  confidence := .ofInt 0
  plate := some ⟨999, some (.ofInt 1)⟩
  colors := [⟨"bike", "red", "#F00", .ofParts true 0 0⟩, ⟨"bike", "red", "#F00", .ofInt 100⟩]

/-- The report is accepted, made into a cyclist, a plate and two colours, and shown again as it is. -/
theorem edgeReport_mirrored :
    let w := World.fresh 4
    Detection.form.reader (.object edgeReport) = .ok edgeReported ∧
    w.supply.Holds edgeReported.entities edgeReported.entities ∧
    ∃ b w', run taped (Bundle.ofDetection (.ofNat 9) edgeReported) w = (.ok b, w') ∧ b.Mirrors (.ofNat 9) edgeReported ∧
      b.ids.Nodup ∧ LooseRow.cyclistView b.row = .ok (edgeReported.view b.cyclist.id) := by
  intro w
  have haccepted : Detection.form.reader (.object edgeReport) = .ok edgeReported := Checked.eq_ok_of_gives (by decide +kernel)
  have hholds : w.supply.Holds edgeReported.entities edgeReported.entities := by decide
  obtain ⟨b, w', hrun, hmirrors, hids, hview⟩ := accepted_detection_mirrored (.ofNat 9) haccepted hholds
  exact ⟨haccepted, hholds, b, w', hrun, hmirrors, hids (by decide), hview⟩

end RaceAlbum
