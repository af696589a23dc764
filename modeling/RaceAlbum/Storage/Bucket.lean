import RaceAlbum.Failure
import RaceAlbum.Program
import RaceAlbum.Text.Blank

/-!
# Objects in a bucket

A store that keeps its objects in a bucket of a remote service. The service may fail at any call; which calls fail, and
how, is part of the bucket's state.
-/

namespace RaceAlbum

/-- How a call to the remote service fails: it answers with an error, it cannot be reached, or something else goes
wrong. -/
inductive CallFault where
  | answered (code message : String)
  | unreachable (url : String)
  | other (message : String)
deriving DecidableEq

/-- A call to the remote service. -/
inductive BucketCall where
  | put (key : String) (length : Nat) (contentType : String)
  | delete (key : String)
deriving DecidableEq

/-- The operation that a call asks for. -/
def BucketCall.operation : BucketCall → String
  | put .. => "PutObject"
  | delete _ => "DeleteObject"

/-- Where a bucket is and how its objects are published. -/
structure BucketSettings where
  bucket : String
  region : String
  endpointUrl : String
  cdnUrl : String
deriving DecidableEq

/-- A bucket: its settings, what it holds, the calls so far, the first one first, and the calls that fail, by number. -/
structure BucketStore where
  settings : BucketSettings
  objects : List (String × Bytes)
  calls : List BucketCall
  faults : List (Nat × CallFault)
deriving DecidableEq

namespace BucketStore

/-- The name of the store in messages. -/
def service : String := "S3"

/-- The region where none is set. -/
def defaultRegion : String := "us-east-1"

/-- Drops the slashes at the end of an address. -/
def trimSlashes (s : String) : String := trimEndText (· == '/') s

/-- The address of an object: on the delivery network if there is one, else at the endpoint, else at the bucket. -/
def url (s : BucketStore) (key : String) : String :=
  let cdn := trimSlashes s.settings.cdnUrl
  let endpoint := trimSlashes s.settings.endpointUrl
  let region := if s.settings.region = "" then defaultRegion else s.settings.region
  if cdn ≠ "" then cdn ++ "/" ++ key
  else if endpoint ≠ "" then endpoint ++ "/" ++ s.settings.bucket ++ "/" ++ key
  else "https://" ++ s.settings.bucket ++ ".s3." ++ region ++ ".amazonaws.com/" ++ key

/-- A failed call as a failure: what the service answers and that it cannot be reached are foreseen. -/
def failureOf (call : BucketCall) : CallFault → Failure
  | .answered code message => .refused (.serviceFailed service (some
      ("An error occurred (" ++ code ++ ") when calling the " ++ call.operation ++ " operation: " ++ message)))
  | .unreachable url => .refused (.serviceFailed service (some
      ("Could not connect to the endpoint URL: \"" ++ url ++ "\"")))
  | .other message => .unexpected message

/-- Makes a call; a call that fails is counted and changes nothing. -/
def call (s : BucketStore) (c : BucketCall) (change : List (String × Bytes) → List (String × Bytes)) :
    Except Failure Unit × BucketStore :=
  let s := { s with calls := s.calls ++ [c] }
  match List.lookup s.calls.length s.faults with
  | some fault => (.error (failureOf c fault), s)
  | none => (.ok (), { s with objects := change s.objects })

/-- The objects without that of a key. -/
def without (key : String) (objects : List (String × Bytes)) : List (String × Bytes) :=
  objects.filter fun o => o.1 != key

/-- Stores an object. -/
def put (s : BucketStore) (key contentType : String) (data : Bytes) : Except Failure Unit × BucketStore :=
  s.call (.put key data.length contentType) fun objects => without key objects ++ [(key, data)]

/-- Removes an object. -/
def remove (s : BucketStore) (key : String) : Except Failure Unit × BucketStore :=
  s.call (.delete key) (without key)

end BucketStore

end RaceAlbum
