import RaceAlbum.Detection.Form
import RaceAlbum.Proofs.Schema.Accepted

/-!
# The ranges of accepted detections

A classification that was accepted reports confidences between zero and one, numbers of plates between their limits and
shares between zero and a hundred. What is no number lies in none of these ranges.
-/

namespace RaceAlbum

/-- The numbers that a detection reports lie in their ranges. -/
structure Detection.InRange (d : Detection) : Prop where
  confidence : d.confidence.Between 0 1
  plateNumber : ∀ p ∈ d.plate, 1 ≤ p.number ∧ p.number ≤ 999
  plateConfidence : ∀ p ∈ d.plate, ∀ x ∈ p.confidence, x.Between 0 1
  density : ∀ c ∈ d.colors, c.density.Between 0 100

/-- The pieces of equipment that a detection reports on are known ones. -/
def Detection.NamesEquipment (d : Detection) : Prop := ∀ c ∈ d.colors, ∃ item : EquipmentItem, c.item = item.text

/-- A classification was accepted as it is. -/
def Detection.Accepted (ds : List Detection) : Prop := ∃ fields, PhotoClassification.form.read fields = .ok ⟨ds⟩

theorem plate_inRange {fields : Fields} {p : PlateDetection} (h : PlateDetection.form.read fields = .ok p) :
    (1 ≤ p.number ∧ p.number ≤ 999) ∧ ∀ x ∈ p.confidence, x.Between 0 1 := by
  obtain ⟨f, confidence, hf, hconfidence, rfl⟩ := Checked.seq_eq_ok_iff.1 h
  obtain ⟨number, hnumber, rfl⟩ := Checked.map_eq_ok_iff.1 hf
  obtain ⟨v, hnumber⟩ := MemberName.required_ok hnumber
  refine ⟨Reader.boundedInteger_ok hnumber, fun x hx => ?_⟩
  cases hx
  rcases MemberName.withDefault_ok hconfidence with hnone | ⟨v, hsome⟩
  · cases hnone
  · obtain ⟨v, hx⟩ := Reader.optional_ok hsome
    exact Reader.boundedNumber_ok hx

theorem color_inRange {fields : Fields} {c : ColorDetection} (h : ColorDetection.form.read fields = .ok c) :
    c.density.Between 0 100 ∧ ∃ item : EquipmentItem, c.item = item.text := by
  obtain ⟨f, density, hf, hdensity, rfl⟩ := Checked.seq_eq_ok_iff.1 h
  obtain ⟨g, hex, hg, -, rfl⟩ := Checked.seq_eq_ok_iff.1 hf
  obtain ⟨k, name, hk, -, rfl⟩ := Checked.seq_eq_ok_iff.1 hg
  obtain ⟨item, -, rfl⟩ := Checked.map_eq_ok_iff.1 hk
  obtain ⟨v, hdensity⟩ := MemberName.required_ok hdensity
  exact ⟨Reader.boundedNumber_ok hdensity, item, rfl⟩

theorem detection_inRange {fields : Fields} {d : Detection} (h : Detection.form.read fields = .ok d) :
    d.InRange ∧ d.NamesEquipment := by
  obtain ⟨f, colors, hf, hcolors, rfl⟩ := Checked.seq_eq_ok_iff.1 h
  obtain ⟨g, plate, hg, hplate, rfl⟩ := Checked.seq_eq_ok_iff.1 hf
  obtain ⟨k, confidence, hk, hconfidence, rfl⟩ := Checked.seq_eq_ok_iff.1 hg
  obtain ⟨box, -, rfl⟩ := Checked.map_eq_ok_iff.1 hk
  obtain ⟨v, hconfidence⟩ := MemberName.required_ok hconfidence
  have hplate {p : PlateDetection} (hp : p ∈ plate) :
      (1 ≤ p.number ∧ p.number ≤ 999) ∧ ∀ x ∈ p.confidence, x.Between 0 1 := by
    cases hp
    rcases MemberName.withDefault_ok hplate with hnone | ⟨v, hsome⟩
    · cases hnone
    · obtain ⟨v, hp⟩ := Reader.optional_ok hsome
      obtain ⟨fields, hp⟩ := Form.reader_ok hp
      exact plate_inRange hp
  have hcolor {c : ColorDetection} (hc : c ∈ colors) :
      c.density.Between 0 100 ∧ ∃ item : EquipmentItem, c.item = item.text := by
    rcases MemberName.withDefault_ok hcolors with rfl | ⟨v, hlist⟩
    · cases hc
    · obtain ⟨v, hc⟩ := Reader.list_ok hlist c hc
      obtain ⟨fields, hc⟩ := Form.reader_ok hc
      exact color_inRange hc
  exact ⟨⟨Reader.boundedNumber_ok hconfidence, fun p hp => (hplate hp).1, fun p hp => (hplate hp).2,
    fun c hc => (hcolor hc).1⟩, fun c hc => (hcolor hc).2⟩

/-- All detections that were accepted lie in their ranges, and the equipment that they report on is known. -/
theorem Detection.Accepted.parts {ds : List Detection} (h : Accepted ds) :
    ∀ d ∈ ds, d.InRange ∧ d.NamesEquipment := by
  obtain ⟨fields, h⟩ := h
  obtain ⟨ds', hds, hmk⟩ := Checked.map_eq_ok_iff.1 h
  cases hmk
  obtain ⟨v, hds⟩ := MemberName.required_ok hds
  intro d hd
  obtain ⟨v, hd⟩ := Reader.list_ok hds d hd
  obtain ⟨fields, hd⟩ := Form.reader_ok hd
  exact detection_inRange hd

/-- All detections that were accepted lie in their ranges. -/
theorem Detection.Accepted.inRange {ds : List Detection} (h : Accepted ds) : ∀ d ∈ ds, d.InRange :=
  fun d hd => (h.parts d hd).1

namespace Binary64

variable {x y : Binary64}

/-- A number that is at most another one is not greater than it. -/
theorem not_lt_of_le (h : x.le y = true) : y.lt x = false := by
  unfold le at h
  split at h
  · cases h
  · cases h
  · simpa using h

/-- What is no number is not smaller than anything. -/
theorem ne_nan_of_le (h : x.le y = true) : x ≠ nan := by
  rintro rfl
  cases h

/-- Numbers are at most what is not smaller than they are. -/
theorem le_of_not_lt (hx : x ≠ nan) (hy : y ≠ nan) (h : y.lt x = false) : x.le y = true := by
  unfold le
  split
  · exact absurd rfl hx
  · exact absurd rfl hy
  · rw [h, Bool.not_false]

/-- An integer has a number. -/
theorem ofInt_ne_nan (n : Int) : ofInt n ≠ nan := by
  have hparts (negative : Bool) (significand exponent : Nat) : ofParts negative significand exponent ≠ nan := by
    unfold ofParts
    split
    · exact nofun
    · exact nofun
  unfold ofInt ofRatio
  dsimp only
  split
  · exact hparts _ _ _
  · exact hparts _ _ _

/-- A zero is in the same place without its sign. -/
theorem units_withoutZeroSign (x : Binary64) : x.withoutZeroSign.units = x.units := by
  cases x with
  | nan => rfl
  | infinity => rfl
  | finite negative m e h =>
    cases m with
    | zero =>
      have hmagnitude (sign : Bool) : (finite sign 0 e h).magnitude = 0 := Nat.zero_mul _
      change (finite false 0 e h).units = (finite negative 0 e h).units
      rw [units, units, hmagnitude, hmagnitude]
      cases negative <;> rfl
    | succ m => rfl

/-- So it is compared in the same way. -/
theorem le_withoutZeroSign (x y : Binary64) : x.withoutZeroSign.le y = x.le y ∧ y.le x.withoutZeroSign = y.le x := by
  cases x with
  | nan => exact ⟨rfl, rfl⟩
  | infinity => exact ⟨rfl, rfl⟩
  | finite negative m e h =>
    cases m with
    | succ m => exact ⟨rfl, rfl⟩
    | zero =>
      have hunits : (finite false 0 e h).units = (finite negative 0 e h).units := units_withoutZeroSign (finite negative 0 e h)
      cases y with
      | nan => exact ⟨rfl, rfl⟩
      | infinity => exact ⟨rfl, rfl⟩
      | finite sign m' e' h' =>
        have hlt : (finite sign m' e' h').lt (finite false 0 e h) = (finite sign m' e' h').lt (finite negative 0 e h) :=
          congrArg (fun n => decide ((finite sign m' e' h').units < n)) hunits
        have hgt : (finite false 0 e h).lt (finite sign m' e' h') = (finite negative 0 e h).lt (finite sign m' e' h') :=
          congrArg (fun n => decide (n < (finite sign m' e' h').units)) hunits
        exact ⟨congrArg (! ·) hlt, congrArg (! ·) hgt⟩

/-- What is a number is one without the sign of a zero. -/
theorem withoutZeroSign_ne_nan (h : x ≠ nan) : x.withoutZeroSign ≠ nan := by
  cases x with
  | nan => exact absurd rfl h
  | infinity => exact nofun
  | finite negative m e =>
    cases m with
    | zero => exact nofun
    | succ m => exact nofun

/-- A number is on neither side of a range if it lies in it; so is what is no number, which is on no side of anything. -/
theorem fits_iff {least most : Int} :
    (!(x.lt (ofInt least) || (ofInt most).lt x)) = true ↔ x.Between least most ∨ x = nan := by
  rw [Bool.not_eq_true', Bool.or_eq_false_iff]
  constructor
  · rintro ⟨hleast, hmost⟩
    by_cases hx : x = nan
    · exact .inr hx
    · exact .inl ⟨le_of_not_lt (ofInt_ne_nan _) hx hleast, le_of_not_lt hx (ofInt_ne_nan _) hmost⟩
  · rintro (⟨hleast, hmost⟩ | rfl)
    · exact ⟨not_lt_of_le hleast, not_lt_of_le hmost⟩
    · cases ofInt most with
      | nan => exact ⟨rfl, rfl⟩
      | infinity negative => exact ⟨rfl, rfl⟩
      | finite negative significand exponent canonical => exact ⟨rfl, rfl⟩

end Binary64

/-- A number in its range can be kept. -/
theorem Binary64.Between.ne_nan {least most : Int} {x : Binary64} (h : x.Between least most) : x ≠ nan := ne_nan_of_le h.2

/-- It stays there without the sign of a zero. -/
theorem Binary64.Between.withoutZeroSign {least most : Int} {x : Binary64} (h : x.Between least most) :
    x.withoutZeroSign.Between least most :=
  ⟨(le_withoutZeroSign x _).2.trans h.1, (le_withoutZeroSign x _).1.trans h.2⟩

/-! ## What the rules let pass -/

/-- A colour that no rule refuses: its share lies in the range or is no number, and its piece of equipment is known. -/
structure ColorDetection.Passes (c : ColorDetection) : Prop where
  density : c.density.Between 0 100 ∨ c.density = .nan
  item : ∃ item : EquipmentItem, c.item = item.text

/-- A detection that no rule refuses: the number of its plate lies in the range, and no colour is refused. -/
structure Detection.Passes (d : Detection) : Prop where
  plateNumber : ∀ p ∈ d.plate, 1 ≤ p.number ∧ p.number ≤ 999
  colors : ∀ c ∈ d.colors, c.Passes

/-- No rule refuses what the form of detections lets pass. -/
theorem Detection.InRange.passes {d : Detection} (h : d.InRange) (hnamed : d.NamesEquipment) : d.Passes :=
  ⟨h.plateNumber, fun c hc => ⟨.inl (h.density c hc), hnamed c hc⟩⟩

end RaceAlbum
