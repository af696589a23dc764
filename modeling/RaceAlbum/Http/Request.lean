import RaceAlbum.Http.Envelope
import RaceAlbum.Http.Multipart
import RaceAlbum.Json.Encoded
import RaceAlbum.Photo.Form
import RaceAlbum.Service.Photos
import RaceAlbum.Settings

/-!
# Requests

What a request brings: a method, a path, a query, headers and perhaps a body. Its parts are read as the forms of
messages are, and the problems of all parts are told together; a place begins with the part that it lies in.
-/

namespace RaceAlbum

/-- A request; its path is decoded, and its body may be empty. -/
structure Request where
  method : String
  path : String
  query : List (String × String)
  headers : Headers
  body : Bytes
deriving DecidableEq

namespace Request

/-! ## Path and query -/

/-- The parts of a path, by name. -/
abbrev Parts := List (String × String)

/-- Reads a part of the path as an identifier. -/
def pathId (name : String) (parts : Parts) : Checked Uuid :=
  ((Reader.uuid (.text ((List.lookup name parts).getD ""))).under (.member name)).under (.member "path")

/-- The value of a name in the query: of several the last. -/
def query? (r : Request) (name : String) : Option String := List.lookup name r.query.reverse

/-- Reads a value of the query, which has a value of its own where it is missing. -/
def queryValue {α : Type} (r : Request) (name : String) (reader : Reader α) (missing : α) : Checked α :=
  match r.query? name with
  | none => .ok missing
  | some s => ((reader (.text s)).under (.member name)).under (.member "query")

/-- The page that a request asks for. -/
def page (r : Request) (s : Settings) : Checked Page :=
  Page.mk <$> r.queryValue "page" (Reader.boundedInteger 1 none) 1
    <*> r.queryValue "limit" (Reader.boundedInteger 1 (some Settings.pageSizeMax)) s.pageSize

/-- The filters of a search. -/
def filters (r : Request) : Checked PhotoFilters :=
  PhotoFilters.mk <$> r.queryValue "eventId" (Reader.optional Reader.uuid) none
    <*> r.queryValue "status" (Reader.optional PhotoStatus.reader) none
    <*> r.queryValue "plateNumber" (Reader.optional plateNumberReader) none
    <*> r.queryValue "fromDate" (Reader.optional Reader.stamp) none
    <*> r.queryValue "toDate" (Reader.optional Reader.stamp) none

/-! ## The body -/

/-- What a body brings to a reader of JSON: nothing, something else, or a value. -/
inductive Document where
  | nothing
  | foreign
  | value (v : Value)

/-- Whether a type of content is JSON, or a format on top of it. -/
def isJsonType (contentType : String) : Bool :=
  let type := trim isBlankOrSeparator ((contentType.toList.takeWhile (· != ';')).map Char.toLower)
  match type.splitOn '/' with
  | [main, sub] => main == "application".toList && (sub == "json".toList || "+json".toList.isSuffixOf sub)
  | _ => false

/-- The type of the body. -/
def contentType (r : Request) : String := (r.headers.find? "content-type").getD ""

/-- The body as JSON. -/
def document (r : Request) : Except (Option JsonFault) Document :=
  if r.body.isEmpty then .ok .nothing
  else if isJsonType r.contentType then (Value.ofJsonBytes r.body).map .value
  else .ok .foreign

/-- Reads a document as a form. -/
def bodyOf {α : Type} (f : Form α) : Document → Checked α
  | .nothing => .problems [⟨[.member "body"], .missing⟩]
  | .foreign => .problems [⟨[.member "body"], .notAnObject f.name⟩]
  | .value v => (f.reader v).under (.member "body")

/-- The name under which a form holds the photos of an upload. -/
def uploadName : String := "photos"

/-- What is said of a text in the place of a file. -/
def notAFile : String := "Expected UploadFile, received: <class 'str'>"

/-- Reads a part of a form as a file. -/
def filePart : FormPart → Checked FormFile
  | .file _ f => .ok f
  | .field .. => .complain (.rule notAFile)

/-- The type of a form in parts. -/
def partsType : List Char := "multipart/form-data".toList

/-- The type of a form of names and values. -/
def fieldsType : List Char := "application/x-www-form-urlencoded".toList

/-- The parts of the form, if the body is one. -/
def formParts (r : Request) : Except FormFault (List FormPart) :=
  let type := HeaderOptions.ofHeader r.contentType.toList
  if type.value = partsType then Multipart.read type r.body
  else if type.value = fieldsType then .ok (fieldsOfForm r.body)
  else .ok []

/-- The files of an upload, of which there is at least one. -/
def uploads (parts : List FormPart) : Checked (List FormFile) :=
  let place (c : Checked (List FormFile)) := (c.under (.member uploadName)).under (.member "body")
  match parts.filter fun p => p.name == uploadName with
  | [] => place (.complain .missing)
  | parts => place (.sequence (parts.mapIdx fun i p => (filePart p).under (.index i)))

end Request

/-! ## Limits of uploads -/

namespace UploadLimits

/-- What is said of too many files. -/
def tooMany (l : UploadLimits) : String := "At most " ++ intText l.files ++ " files can be uploaded at once"

/-- What is said of a file whose type is not accepted. -/
def wrongType (type : String) : String := "File type " ++ type ++ " is not allowed. Accepted: JPEG, PNG, WebP"

/-- What is said of a file that is too large. -/
def tooLarge (l : UploadLimits) (filename : String) : String :=
  "File " ++ filename ++ " exceeds the " ++ intText l.bytes ++ " byte limit"

/-- A file that is accepted, or what is said of it. -/
def accept (l : UploadLimits) (f : FormFile) : Except String UploadedFile :=
  match f.contentType with
  | none => .error (wrongType "None")
  | some type =>
    if !acceptedMimeTypes.contains type then .error (wrongType type)
    else if l.bytes < f.data.length then .error (l.tooLarge f.filename)
    else .ok ⟨f.filename, type, f.data⟩

/-- What is said of a result, if it is a complaint. -/
def complaint? {α : Type} : Except String α → Option String
  | .ok _ => none
  | .error s => some s

/-- All that is said of an upload. -/
def complaints (l : UploadLimits) (fs : List FormFile) : List String :=
  (if l.files < fs.length then [l.tooMany] else []) ++ fs.filterMap fun f => complaint? (l.accept f)

/-- The files of an upload, if nothing is said of them. -/
def check (l : UploadLimits) (fs : List FormFile) : Except Failure (List UploadedFile) :=
  match l.complaints fs with
  | [] => .ok (fs.filterMap fun f => (l.accept f).toOption)
  | messages => .error (.refused (.invalid [(Request.uploadName, messages)]))

end UploadLimits

end RaceAlbum
