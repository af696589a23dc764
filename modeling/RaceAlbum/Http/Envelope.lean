import RaceAlbum.Failure
import RaceAlbum.Http.Status
import RaceAlbum.Text.Blank

/-!
# Envelopes

Every answer has the same frame: what was asked for, or what went wrong, and beside it the identifier of the request
and the moment of the answer. What went wrong is told in full only where the program is being developed.
-/

namespace RaceAlbum

/-- What is noted of a request on its way through the program: its identifier, as soon as it has one. -/
structure RequestNotes where
  requestId? : Option String
deriving DecidableEq

/-- What a route knows of the request that it serves: its identifier and the language that the client prefers. Envelopes tell the
identifier; no text depends on the language. -/
structure RequestContext where
  requestId : String
  locale : String
deriving DecidableEq

/-- The headers of a request. -/
abbrev Headers := List (String × String)

namespace Headers

/-- A name of a header in small letters. -/
def fold (name : String) : String := String.ofList (name.toList.map Char.toLower)

/-- The first header of a name, in whatever case it is written. -/
def find? (headers : Headers) (name : String) : Option String :=
  (List.find? (fun h => fold h.1 == fold name) headers).map Prod.snd

/-- All headers of a name, in whatever case it is written. -/
def all (headers : Headers) (name : String) : List String :=
  (headers.filter fun h => fold h.1 == fold name).map Prod.snd

end Headers

/-- The language that a header prefers: its first entry, without its weight; English where it has none. -/
def preferredLocale (header : String) : String :=
  let entry := (header.toList.takeWhile (· != ',')).takeWhile (· != ';')
  let name := trim isBlankOrSeparator entry
  if name.isEmpty then "en" else String.ofList name

/-- The context of a request with an identifier. -/
def RequestContext.ofHeaders (requestId : String) (headers : Headers) : RequestContext :=
  ⟨requestId, preferredLocale ((headers.find? "accept-language").getD "")⟩

/-- What is said where the identifier of a request is asked for before it is noted. -/
def RequestNotes.unidentified : String := "'State' object has no attribute 'request_id'"

/-- The context that a route is given. There is none for a request whose identifier is not noted. -/
def RequestNotes.context (notes : RequestNotes) (headers : Headers) : Except Failure RequestContext :=
  match notes.requestId? with
  | some requestId => .ok (.ofHeaders requestId headers)
  | none => .error (.unexpected unidentified)

/-- The answer to a request that succeeded. -/
def envelope (data : Value) (requestId : String) (now : Moment) (messageKey : Option String) : Value :=
  .object [("data", data), ("meta", .object
    [("requestId", .text requestId), ("timestamp", .text now.milliText),
     ("message", .ofOption (fun key => .text (Message.resolve key [])) messageKey)])]

/-- The roots of places: which part of a request a place lies in. -/
def pathRoots : List String := ["body", "query", "path", "header", "cookie", "form", "file"]

/-- The name of the field at a place: the steps after its root, joined by points. -/
def fieldName (path : Path) : String :=
  let steps := path.map PathStep.text
  let steps := match steps with
    | root :: rest => if pathRoots.contains root then rest else steps
    | [] => []
  let name := String.intercalate "." steps
  if name = "" then "_root" else name

/-- Messages about places, gathered by field. -/
def FieldMessages.ofPlaces (messages : List (Path × String)) : FieldMessages :=
  messages.foldl (fun fields (path, message) => fields.add (fieldName path) message) []

/-- The refusal of a request with these problems. -/
def Refusal.ofProblems (problems : List Problem) : Refusal :=
  .invalid (.ofPlaces (problems.map fun p => (p.path, p.complaint.message .request)))

/-- What an answer tells about an error; `details` and the stack are told only in development. -/
structure ErrorReport where
  status : Int
  code : String
  message : String
  shouldThrow : Bool
  fields : Option FieldMessages
  details : Value

namespace ErrorReport

/-- The report of a refusal. -/
def ofRefusal (r : Refusal) : ErrorReport :=
  ⟨r.status, r.code, r.message, r.shouldThrow, r.fields, .ofOption .object r.context⟩

/-- The report of an error that is known by its status, with a detail; a detail that is a text is the message. -/
def ofStatus (status : Int) (detail : Value) : ErrorReport :=
  let code := Status.errorCode status
  let message := match detail with
    | .text s => s
    | _ => Message.resolve ("errors." ++ code) []
  ⟨status, code, message, false, none, detail⟩

/-- The report of an error that is raised with a status. Where nothing is said about it, the phrase of the status is. -/
def ofRaisedStatus (status : Int) : (detail : Value) → Except Failure ErrorReport
  | .null => match Status.phrase? status with
    | some phrase => .ok (.ofStatus status (.text phrase))
    | none => .error (.unknownStatus status)
  | detail => .ok (.ofStatus status detail)

/-- The report of an error that no one foresaw. -/
def ofUnforeseen (words : String) : ErrorReport :=
  ⟨500, "INTERNAL", Message.resolve "errors.INTERNAL" [], false, none, .text words⟩

/-- The place of the stack of calls, whose text is not kept. -/
def stackMark : String := "<stack>"

/-- The members of an object that are not empty. -/
def dropNulls (fields : Fields) : Fields := fields.filter fun (_, v) => match v with
  | .null => false
  | _ => true

/-- The body of the answer. -/
def body (r : ErrorReport) (development : Bool) (requestId path : String) (now : Moment) : Value :=
  let told : Fields := if development then [("details", r.details), ("stack", .text stackMark)] else []
  .object
    [("error", .object (dropNulls
      ([("code", .text r.code), ("message", .text r.message), ("shouldThrow", .bool r.shouldThrow),
        ("fields", .ofOption FieldMessages.value r.fields)] ++ told))),
     ("meta", .object [("requestId", .text requestId), ("timestamp", .text now.milliText), ("path", .text path)])]

end ErrorReport

end RaceAlbum
