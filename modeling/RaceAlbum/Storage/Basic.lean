import RaceAlbum.Storage.Bucket
import RaceAlbum.Storage.Folder
import RaceAlbum.Text.LowerCase

/-!
# The store of objects

The bytes of photos are kept apart from their rows, in a folder or in a bucket. Calls to a bucket may fail; the disk of a folder
refuses nothing.
-/

namespace RaceAlbum

/-- A store of objects. -/
inductive Storage where
  | folder (s : FolderStore)
  | bucket (s : BucketStore)
deriving DecidableEq

namespace Storage

/-- Stores an object. -/
def put (key contentType : String) (data : Bytes) : Storage → Except Failure Unit × Storage
  | folder s => let (r, s) := s.put .faultless key data; (r, folder s)
  | bucket s => let (r, s) := s.put key contentType data; (r, bucket s)

/-- Removes an object. -/
def remove (key : String) : Storage → Except Failure Unit × Storage
  | folder s => let (r, s) := s.remove .faultless key; (r, folder s)
  | bucket s => let (r, s) := s.remove key; (r, bucket s)

/-- The address of an object. -/
def url (key : String) : Storage → String
  | folder s => s.url key
  | bucket s => s.url key

end Storage

/-- The extension of a photo whose name has none. -/
def defaultExtension : List Char := "jpg".toList

/-- The extension of a file name, in small letters: what follows its last point, if anything does. -/
def extensionOf (filename : String) : List Char :=
  let cs := filename.toList
  let ext := (cs.reverse.takeWhile (· != '.')).reverse
  if cs.contains '.' && !ext.isEmpty then lowerCase ext else defaultExtension

/-- The key of the object of a photo: the event, a fresh identifier and the extension. -/
def photoKey (eventId fresh : Uuid) (filename : String) : String :=
  "events/" ++ eventId.text ++ "/photos/" ++ fresh.text ++ "." ++ String.ofList (extensionOf filename)

end RaceAlbum
