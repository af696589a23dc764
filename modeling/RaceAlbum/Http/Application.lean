import RaceAlbum.Http.Origin
import RaceAlbum.Http.Route

/-!
# The application

Every request is answered, whatever comes of it. Each answer has the identifier of its request: the one that came with
it, or else a new one. The outermost layer of the program finds it, notes it for the layers inside and puts it on what they
respond with. Failures that are foreseen have reports of their own; all others, the failure to write such a report among
them, have the same one, which tells more only where the program is being developed.
-/

namespace RaceAlbum

/-- The body of an answer. -/
inductive AnswerBody where
  | json (v : Value)
  | text (s : String)

/-- An answer: its status, its body and the headers that matter. -/
structure Answer where
  status : Int
  body : AnswerBody
  requestId : String
  location : Option String
  allowedSite : Option String
  exposed : Option String

/-- What the inner layers of the program respond with. Only some of them write the header with the identifier. -/
structure Response where
  status : Int
  body : AnswerBody
  requestId? : Option String
  location : Option String
  allowedSite : Option String
  exposed : Option String

/-- The answer that a response becomes when the header with the identifier is written, over one that may be there. -/
def Response.named (requestId : String) (a : Response) : Answer where
  status := a.status
  body := a.body
  requestId := requestId
  location := a.location
  allowedSite := a.allowedSite
  exposed := a.exposed

/-- The program as it answers requests: its settings, and routes beside its own. -/
structure Application where
  settings : Settings
  more : List Route

namespace Application

/-- The header that holds the identifier of a request. -/
def requestIdHeader : String := "X-Request-Id"

/-- The program with its settings and more routes. -/
def start (settings : Settings) (more : List Route) : Except Failure Application :=
  match Pattern.rootFault? settings.apiRoot with
  | some fault => .error (.unusableRoot fault)
  | none => .ok ⟨settings, more⟩

/-- All routes, in the order in which they are tried. Left out are the four pages that the framework adds by itself to describe the
routes: `/openapi.json`, `/docs`, `/docs/oauth2-redirect` and `/redoc`. None of them touches a row or an object. -/
def routes (app : Application) : List Route := Route.api app.settings ++ [Route.healthRoute] ++ app.more

/-- The identifier of a request: the one that came with it unless it is empty, else a new one. -/
def requestId (r : Request) : Program String := do
  let given := (r.headers.find? requestIdHeader).getD ""
  if given = "" then
    let id ← Program.takeId
    return id.text
  else return given

/-- The host of the program where a request does not name it. -/
def defaultHost : String := "testserver"

/-- The address of a path of the program, at the host that a request names and with its query. -/
def address (r : Request) (path : String) : String :=
  let query := encodeQuery r.query
  let host := (r.headers.find? "Host").getD defaultHost
  encodeAddress ("http://" ++ host ++ pathInAddress path ++ if query = "" then "" else "?" ++ query)

/-- The error that is known by its status alone. -/
def plainError (status : Int) : Reply := .error (.ofStatus status (.text ((Status.phrase? status).getD "")))

/-- What the routes make of a request. -/
def route (app : Application) (r : Request) : Program Reply :=
  match Route.find app.routes r.method r.path with
  | .route found parts => found.serve r parts
  | .wrongMethod => .done (plainError 405)
  | .nothing =>
    match Route.meantPath? app.routes r.path with
    | some path => .done (.redirect (address r path))
    | none => .done (plainError 404)

/-- The report of a failure that is foreseen. -/
def reportOf? : Failure → Option ErrorReport
  | .refused refusal => some (.ofRefusal refusal)
  | .malformed .request problems => some (.ofRefusal (.ofProblems problems))
  | _ => none

/-- Whether an error is told in full: only where the settings are known, and the program is being developed. -/
def tellsAll (settings : Option Settings) : Bool := (settings.map Settings.isDevelopment).getD false

/-- The names of the headers that sites may read. -/
def exposedHeaders : String := requestIdHeader

/-- The headers of an answer. -/
def headers (a : Answer) : Headers :=
  let given (name : String) (value? : Option String) : Headers := value?.toList.map fun value => (name, value)
  (requestIdHeader, a.requestId) :: (given "location" a.location ++ given "access-control-allow-origin" a.allowedSite ++
    given "access-control-expose-headers" a.exposed)

/-- A response with a body, and what a site may know of it. -/
def response (app : Application) (r : Request) (status : Int) (body : AnswerBody) : Response where
  status := status
  body := body
  requestId? := none
  location := none
  allowedSite := Origin.named? app.settings.origins r
  exposed := (r.headers.find? Origin.header).map fun _ => exposedHeaders

/-- The identifier that is noted of a request. Where none is, it is found as the outermost layer finds it. It is noted then too,
but a response asks for it only once. -/
def notedId (notes : RequestNotes) (r : Request) : Program String :=
  match notes.requestId? with
  | some id => return id
  | none => requestId r

/-- The body of a report about a request. It cannot be written where a number in it is not finite. -/
def errorBody (development : Bool) (r : Request) (requestId : String) (report : ErrorReport) : Program Value := do
  let now ← Program.readClock
  let body := report.body development requestId (shownPath r.path) now.wall
  if body.isFinite then return body.wire else Program.failed .unwritableNumber

/-- The response that tells about an error. It has the header with the identifier. -/
def errorResponse (app : Application) (r : Request) (notes : RequestNotes) (report : ErrorReport) : Program Response := do
  let id ← notedId notes r
  let body ← errorBody app.settings.isDevelopment r id report
  return { app.response r report.status (.json body) with requestId? := some id }

/-- The response that hands out a reply. An envelope tells the identifier that is in the context of the route, which the notes give
before the route serves the request as they do afterwards. -/
def replyResponse (app : Application) (r : Request) (notes : RequestNotes) : Reply → Program Response
  | .wrapped status data key => do
    let context ← Program.ofExcept (notes.context r.headers)
    let now ← Program.readClock
    return app.response r status (.json (envelope data context.requestId now.wall (some key)).wire)
  | .bare v => return app.response r 200 (.json v.wire)
  | .error report => app.errorResponse r notes report
  | .redirect location => return { app.response r 307 (.text "") with location := some location }

/-- The response to a request, unless it fails in a way that no one foresaw. -/
def foreseenResponse (app : Application) (r : Request) (notes : RequestNotes) : Program Response := do
  match ← (app.route r).attempt with
  | .ok reply => app.replyResponse r notes reply
  | .error f =>
    match reportOf? f with
    | some report => app.errorResponse r notes report
    | none => .failed f

/-- The response to a request that failed in a way that no one foresaw. A site learns nothing from it. -/
def unforeseenResponse (app : Application) (r : Request) (notes : RequestNotes) (f : Failure) : Program Response := do
  let a ← app.errorResponse r notes (.ofUnforeseen f.words)
  return { a with allowedSite := none, exposed := none }

/-- An answer without its body where the method asks for none. -/
def withoutBody (r : Request) (a : Answer) : Answer := if r.method = "HEAD" then { a with body := .text "" } else a

/-- The response to a browser that asks whether a request is allowed. -/
def verdictResponse (v : Origin.Verdict) : Response := ⟨v.status, .text v.words, none, none, v.site, none⟩

/-- Answers a request. -/
def respond (app : Application) (r : Request) : Program Answer := do
  let id ← requestId r
  let notes : RequestNotes := ⟨some id⟩
  match Origin.verdict? app.settings.origins r with
  | some v => return (verdictResponse v).named id
  | none =>
    match ← (app.foreseenResponse r notes).attempt with
    | .ok a => return withoutBody r (a.named id)
    | .error f =>
      let a ← app.unforeseenResponse r notes f
      return withoutBody r (a.named id)

end Application

end RaceAlbum
