import RaceAlbum.Http.Request

/-!
# Origins

A browser tells from which site a request comes and lets that site read the answer only if the answer names it. Before
some requests it asks whether they are allowed at all.
-/

namespace RaceAlbum.Origin

/-- The mark of all sites. -/
def anySite : String := "*"

/-- The methods that a site may use. -/
def methods : List String := ["DELETE", "GET", "HEAD", "OPTIONS", "PATCH", "POST", "PUT"]

/-- The header that tells the site of a request. -/
def header : String := "Origin"

/-- Whether a site may read answers. -/
def isAllowed (origins : List String) (site : String) : Bool := origins.contains anySite || origins.contains site

/-- The site that an answer names: the one that asks, if it may read answers. -/
def named? (origins : List String) (r : Request) : Option String :=
  (r.headers.find? header).filter (isAllowed origins)

/-- The answer to the question of a browser whether a request is allowed. -/
structure Verdict where
  status : Int
  words : String
  site : Option String

/-- The verdict on a site and a method. A request from outside to a private network is never allowed. -/
def verdict (origins : List String) (site method : String) (privateNetwork : Bool) : Verdict :=
  let wrong := (if isAllowed origins site then [] else ["origin"]) ++
    (if methods.contains method then [] else ["method"]) ++ (if privateNetwork then ["private-network"] else [])
  let named := if isAllowed origins site then some site else none
  if wrong.isEmpty then ⟨200, "OK", named⟩ else ⟨400, "Disallowed CORS " ++ String.intercalate ", " wrong, named⟩

/-- The verdict on a request that only asks whether another is allowed. -/
def verdict? (origins : List String) (r : Request) : Option Verdict :=
  match r.method, r.headers.find? header, r.headers.find? "Access-Control-Request-Method" with
  | "OPTIONS", some site, some method =>
    some (verdict origins site method (r.headers.find? "Access-Control-Request-Private-Network").isSome)
  | _, _, _ => none

end RaceAlbum.Origin
