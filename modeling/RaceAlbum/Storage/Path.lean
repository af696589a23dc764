import RaceAlbum.Calendar.Reading

/-!
# Paths of stored files

The key of an object names a file below the root of the store. A key is read step by step: an empty step and a point
stay where they are, two points go up one step, and a slash in front starts from the top. A key that leads out of the
root names no file. A place is given by the names on the way to it from the top, the last name first.
-/

namespace RaceAlbum

/-- A path below the root: the names of its steps. The empty path is the root itself. -/
abbrev FilePath := List String

/-- The steps of a key, split at its slashes. -/
def keySteps (key : String) : List String := (key.toList.splitOn '/').map String.ofList

/-- Takes one step from a place. Above the top there is nothing. -/
def takeStep (place : List String) (step : String) : List String :=
  if step = "" ∨ step = "." then place
  else if step = ".." then place.drop 1
  else step :: place

/-- The place of a root in a folder that is made for some time only. -/
def temporaryRoot : List String := ["storage", "<temporary>", "tmp"]

/-- The place that a key leads to from the place of a root. -/
def keyPlace (root : List String) (key : String) : List String :=
  (keySteps key).foldl takeStep (if key.toList.head? = some '/' then [] else root)

/-- The path below the root that a key leads to; none where it leads out of the root. -/
def FilePath.ofKey? (root : List String) (key : String) : Option FilePath :=
  let place := (keyPlace root key).reverse
  if root.reverse.isPrefixOf place then some (place.drop root.length) else none

/-- How the root is written in messages. -/
def rootMark : String := "<root>"

/-- The path as messages show it. -/
def FilePath.text (p : FilePath) : String := String.join (rootMark :: p.map ("/" ++ ·))

/-- The path as it is listed: steps with slashes between them, and a point for the root. -/
def FilePath.listed (p : FilePath) : String := if p.isEmpty then "." else String.intercalate "/" p

/-- The paths above a path, from the root on. -/
def FilePath.above (p : FilePath) : List FilePath := (List.range p.length).map fun n => p.take n

/-- The bytes of a text in UTF-8. -/
def textBytes (s : String) : Nat := utf8Length s.toList

/-- The most bytes of a name. -/
def nameBytesMax : Nat := 255

/-- The number of bytes from which a path is too long. -/
def pathBytesLimit : Nat := 4096

/-- Whether a name is too long. -/
def isLongName (name : String) : Bool := nameBytesMax < textBytes name

/-- The bytes of a place: those of its names, each with a slash in front. -/
def placeBytes (place : List String) : Nat := place.foldl (fun n s => n + textBytes s + 1) 0

/-- Whether a path below a root is too long: as a whole, counted from the top, or for a name of the root. -/
def FilePath.isLong (root : List String) (p : FilePath) : Bool :=
  root.any isLongName || pathBytesLimit ≤ placeBytes (root.reverse ++ p)

end RaceAlbum
