import RaceAlbum.Json.Misfit
import RaceAlbum.Picture.Fault
import RaceAlbum.Refusal

/-!
# Failures

A failure is any outcome other than success: a refusal, the violation of a constraint of the tables, a value that an
operation, a column or the calendar cannot hold, a setting that cannot be read or used, a picture that breaks its
format, folders that are nested too deep to be made, or something that no one foresaw.
-/

namespace RaceAlbum

/-- The five tables. -/
inductive Table where
  | events
  | photos
  | cyclists
  | plates
  | colors
deriving DecidableEq

/-- The name of a table. -/
def Table.name : Table → String
  | events => "events"
  | photos => "photos"
  | cyclists => "detected_cyclists"
  | plates => "plate_numbers"
  | colors => "equipment_colors"

/-- A constraint of the tables that a change would violate. -/
inductive Violation where
  | foreignKey
  | duplicateId (t : Table)
  | duplicateFilename
  | secondPlate
  | missingConfidence
  | missingColorName
  | missingColorHex
  | missingDensity
  | blocked
deriving DecidableEq

namespace Violation

/-- The violation as the tables report it. -/
def message : Violation → String
  | foreignKey => "FOREIGN KEY constraint failed"
  | duplicateId t => "UNIQUE constraint failed: " ++ t.name ++ ".id"
  | duplicateFilename => "UNIQUE constraint failed: photos.event_id, photos.filename"
  | secondPlate => "UNIQUE constraint failed: plate_numbers.detected_cyclist_id"
  | missingConfidence => "NOT NULL constraint failed: detected_cyclists.confidence_score"
  | missingColorName => "NOT NULL constraint failed: equipment_colors.color_name"
  | missingColorHex => "NOT NULL constraint failed: equipment_colors.color_hex"
  | missingDensity => "NOT NULL constraint failed: equipment_colors.density_percentage"
  | blocked => "blocked"

/-- The texts by which a report names the constraint on file names: its columns, or its own name. -/
def filenameMarks : List String := ["unique_event_filename", "photos.event_id, photos.filename"]

/-- Whether one text stands inside another. -/
def contains (part : List Char) : List Char → Bool
  | [] => part.isEmpty
  | c :: cs => part.isPrefixOf (c :: cs) || contains part cs

/-- Whether a report of the tables speaks of two photos of one event with the same file name. -/
def reportsDuplicateFilename (report : String) : Bool :=
  filenameMarks.any fun mark => contains mark.toList report.toList

end Violation

/-- Why a path cannot be the root of others: it does not begin with a slash, or it ends with one. -/
inductive RootFault where
  | noSlashInFront
  | slashAtEnd
deriving DecidableEq

/-- A fault of a root in words. -/
def RootFault.words : RootFault → String
  | noSlashInFront => "A path prefix must start with '/'"
  | slashAtEnd => "A path prefix must not end with '/', as the routes will start with '/'"

/-- What lies too deep inside others, in words. -/
def nestWords : Nest → String
  | .list => "array"
  | .object => "object"

/-- An outcome other than success. -/
inductive Failure where
  | refused (r : Refusal)
  | violation (v : Violation)
  | malformed (source : Source) (problems : List Problem)
  | dateOverflow
  | integerOverflow
  | notAMember (v : Value) (enumeration : String)
  | misfit (m : Misfit)
  | unreadableSetting (name : String)
  | nestedTooDeep (last : Nest)
  | unusableRoot (fault : RootFault)
  | unusableRegion (region : String)
  | missingKey (name : String)
  | unusableEndpoint (address : String)
  | unwritableNumber
  | foldersTooDeep
  | unknownStatus (status : Int)
  | picture (fault : PictureFault)
  | unexpected (message : String)

namespace Failure

/-- A rule of the domain is broken. -/
def ofRule (r : Rule) : Failure := refused (.ofRule r)

/-- There is no entity of a kind with an identifier. -/
def notFound (entity : String) (id : Uuid) : Failure := refused (.notFound entity id.text)

/-- A failure that is no refusal, in words. -/
def words : Failure → String
  | refused r => r.message
  | violation v => v.message
  | malformed _ _ => "malformed"
  | dateOverflow => "date value out of range"
  | integerOverflow => "Python int too large to convert to SQLite INTEGER"
  | misfit m => m.words
  | notAMember v enumeration => v.spellInside ++ " is not a valid " ++ enumeration
  | unreadableSetting name => "error parsing value for field \"" ++ name ++ "\" from source \"EnvSettingsSource\""
  | nestedTooDeep last =>
    "maximum recursion depth exceeded while decoding a JSON " ++ nestWords last ++ " from a unicode string"
  | unusableRoot fault => fault.words
  | unusableRegion region => "Provided region_name '" ++ region ++ "' doesn't match a supported format."
  | missingKey name => "Partial credentials found in explicit, missing: " ++ name
  | unusableEndpoint address => "Invalid endpoint: " ++ address
  | unknownStatus status => intText status ++ " is not a valid HTTPStatus"
  | foldersTooDeep => "maximum recursion depth exceeded while calling a Python object"
  | unwritableNumber => "Out of range float values are not JSON compliant"
  | picture fault => fault.words
  | unexpected message => message

end Failure

end RaceAlbum
