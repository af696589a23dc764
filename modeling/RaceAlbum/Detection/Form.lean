import RaceAlbum.Detection.Basic
import RaceAlbum.Schema.Names
import RaceAlbum.Schema.Scalar

/-!
# The forms of detections

How detections arrive, with their ranges, and how the cyclists of a photo leave.
-/

namespace RaceAlbum

/-- The least number of a plate. -/
def plateNumberMin : Int := 1

/-- The greatest number of a plate. -/
def plateNumberMax : Int := 999

/-- The least share of a colour. -/
def densityMin : Int := 0

/-- The greatest share of a colour. -/
def densityMax : Int := 100

/-- The pattern of a colour in hexadecimal, as messages show it. -/
def colorPattern : String := "^#([0-9a-fA-F]\x7b3\x7d|[0-9a-fA-F]\x7b6\x7d)$"

/-- Whether a text is a colour: a number sign and three or six hexadecimal digits. -/
def isColor : List Char → Bool
  | '#' :: ds => ds.all (fun c => (Uuid.hexValue? c).isSome) && (ds.length == 3 || ds.length == 6)
  | _ => false

/-- A dictionary of numbers as a value. -/
def BoundingBox.value (b : BoundingBox) : Value := .object (b.map fun (name, x) => (name, .float x))

/-- The form of a plate that is reported. -/
def PlateDetection.form : Form PlateDetection where
  name := "PlateClassification"
  members := [.number, .confidenceScore]
  read fields := PlateDetection.mk
    <$> MemberName.required .number (Reader.boundedInteger plateNumberMin (some plateNumberMax)) fields
    <*> MemberName.withDefault .confidenceScore (Reader.optional (Reader.boundedNumber 0 1)) none fields
  write p := [("number", .int p.number), ("confidenceScore", .ofOption .float p.confidence)]

/-- The form of a colour that is reported. -/
def ColorDetection.form : Form ColorDetection where
  name := "ColorClassification"
  members := [.itemType, .colorName, .colorHex, .densityPercentage]
  read fields := (fun (item : EquipmentItem) name hex density => ColorDetection.mk item.text name hex density)
    <$> MemberName.required .itemType
      (Reader.member (EquipmentItem.all.map EquipmentItem.text) EquipmentItem.ofText?) fields
    <*> MemberName.required .colorName (Reader.boundedText 1 50) fields
    <*> MemberName.required .colorHex (Reader.patternText colorPattern isColor) fields
    <*> MemberName.required .densityPercentage (Reader.boundedNumber densityMin densityMax) fields
  write c := [("itemType", .text c.item), ("colorName", .text c.name), ("colorHex", .text c.hex),
    ("densityPercentage", .float c.density)]

/-- The form of a cyclist that is reported. -/
def Detection.form : Form Detection where
  name := "CyclistClassification"
  members := [.boundingBox, .confidenceScore, .plateNumber, .colors]
  read fields := Detection.mk
    <$> MemberName.required .boundingBox (Reader.dictionary Reader.number) fields
    <*> MemberName.required .confidenceScore (Reader.boundedNumber 0 1) fields
    <*> MemberName.withDefault .plateNumber (Reader.optional PlateDetection.form.reader) none fields
    <*> MemberName.withDefault .colors (Reader.list ColorDetection.form.reader) [] fields
  write d := [("boundingBox", BoundingBox.value d.box), ("confidenceScore", .float d.confidence),
    ("plateNumber", .ofOption PlateDetection.form.value d.plate),
    ("colors", .list (d.colors.map ColorDetection.form.value))]

/-- All that is reported of a photo. -/
structure PhotoClassification where
  cyclists : List Detection
deriving DecidableEq

/-- The form of all that is reported of a photo. -/
def PhotoClassification.form : Form PhotoClassification where
  name := "ClassifyPhotoRequest"
  members := [.cyclists]
  read fields := PhotoClassification.mk <$> MemberName.required .cyclists (Reader.list Detection.form.reader) fields
  write c := [("cyclists", .list (c.cyclists.map Detection.form.value))]

/-- The plate of a cyclist, as it is shown. -/
structure PlateView where
  number : Int
  confidence : Option Binary64
  manuallyCorrected : Bool
deriving DecidableEq

/-- The colour of a piece of equipment, as it is shown. -/
structure ColorView where
  item : String
  name : String
  hex : String
  density : Binary64
deriving DecidableEq

/-- A cyclist, as it is shown. -/
structure CyclistView where
  id : Uuid
  box : BoundingBox
  confidence : Binary64
  plate : Option PlateView
  colors : List ColorView
deriving DecidableEq

/-- The form of a plate that is shown. -/
def PlateView.form : Form PlateView where
  name := "PlateNumberRead"
  members := [.number, .confidenceScore, .manuallyCorrected]
  read fields := PlateView.mk <$> MemberName.required .number Reader.integer fields
    <*> MemberName.withDefault .confidenceScore (Reader.optional Reader.number) none fields
    <*> MemberName.withDefault .manuallyCorrected Reader.boolean false fields
  write p := [("number", .int p.number), ("confidenceScore", .ofOption .float p.confidence),
    ("manuallyCorrected", .bool p.manuallyCorrected)]

/-- The form of a colour that is shown. -/
def ColorView.form : Form ColorView where
  name := "EquipmentColorRead"
  members := [.itemType, .colorName, .colorHex, .densityPercentage]
  read fields := ColorView.mk <$> MemberName.required .itemType Reader.text fields
    <*> MemberName.required .colorName Reader.text fields
    <*> MemberName.required .colorHex Reader.text fields
    <*> MemberName.required .densityPercentage Reader.number fields
  write c := [("itemType", .text c.item), ("colorName", .text c.name), ("colorHex", .text c.hex),
    ("densityPercentage", .float c.density)]

/-- The form of a cyclist that is shown. -/
def CyclistView.form : Form CyclistView where
  name := "DetectedCyclistRead"
  members := [.id, .boundingBox, .confidenceScore, .plateNumber, .equipmentColors]
  read fields := CyclistView.mk <$> MemberName.required .id Reader.uuid fields
    <*> MemberName.required .boundingBox (Reader.dictionary Reader.number) fields
    <*> MemberName.required .confidenceScore Reader.number fields
    <*> MemberName.withDefault .plateNumber (Reader.optional PlateView.form.reader) none fields
    <*> MemberName.withDefault .equipmentColors (Reader.list ColorView.form.reader) [] fields
  write c := [("id", .uuid c.id), ("boundingBox", BoundingBox.value c.box), ("confidenceScore", .float c.confidence),
    ("plateNumber", .ofOption PlateView.form.value c.plate),
    ("equipmentColors", .list (c.colors.map ColorView.form.value))]

end RaceAlbum
