import RaceAlbum.Calendar.Stamp
import RaceAlbum.Number.Binary64
import RaceAlbum.Uuid

/-!
# Detections

What was seen on a photo: cyclists, each in a box, perhaps with the number of a plate, and with the colours of their
equipment. A `Detection` is one cyclist as it is reported; a `Bundle` is the same as it is kept, in three kinds of
entity with identifiers of their own.
-/

namespace RaceAlbum

/-- The pieces of equipment whose colours are told. -/
inductive EquipmentItem where
  | helmet
  | jersey
  | bike
deriving DecidableEq

namespace EquipmentItem

/-- The name of a piece of equipment. -/
def text : EquipmentItem → String
  | helmet => "helmet"
  | jersey => "jersey"
  | bike => "bike"

/-- All pieces of equipment. -/
def all : List EquipmentItem := [helmet, jersey, bike]

/-- The piece of equipment of a name. -/
def ofText? (s : String) : Option EquipmentItem := all.find? fun item => item.text == s

end EquipmentItem

/-- A box on a photo: numbers by name. -/
abbrev BoundingBox := List (String × Binary64)

/-- The plate of a cyclist, as it is reported. -/
structure PlateDetection where
  number : Int
  confidence : Option Binary64
deriving DecidableEq

/-- The colour of a piece of equipment, as it is reported. The piece is named by any text. -/
structure ColorDetection where
  item : String
  name : String
  hex : String
  density : Binary64
deriving DecidableEq

/-- A cyclist, as it is reported. -/
structure Detection where
  box : BoundingBox
  confidence : Binary64
  plate : Option PlateDetection
  colors : List ColorDetection
deriving DecidableEq

/-- A cyclist on a photo. -/
structure Cyclist where
  id : Uuid
  photoId : Uuid
  box : BoundingBox
  confidence : Binary64
  createdAt : Stamp
deriving DecidableEq

/-- The plate of a cyclist. -/
structure Plate where
  id : Uuid
  cyclistId : Uuid
  number : Int
  confidence : Option Binary64
  manuallyCorrected : Bool
  correctedAt : Option Stamp
  createdAt : Stamp
deriving DecidableEq

/-- The colour of a piece of a cyclist's equipment. -/
structure EquipmentColor where
  id : Uuid
  cyclistId : Uuid
  item : EquipmentItem
  name : String
  hex : String
  density : Binary64
  createdAt : Stamp
deriving DecidableEq

/-- A cyclist with its plate and its colours. -/
structure Bundle where
  cyclist : Cyclist
  plate : Option Plate
  colors : List EquipmentColor
deriving DecidableEq

end RaceAlbum
