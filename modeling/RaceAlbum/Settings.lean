import RaceAlbum.Json.Reader
import RaceAlbum.Schema.Names
import RaceAlbum.Schema.Scalar
import RaceAlbum.Storage.Basic
import RaceAlbum.Storage.Endpoint
import RaceAlbum.Text.LowerCase

/-!
# Settings

How an installation is set up. Each setting has a name in capitals and a value of its own where nothing is said. What
is said comes from two places: from the environment, where all values are texts, and from what is given directly, which
wins. In both places a name may be in letters of any case.
-/

namespace RaceAlbum

/-- Where an installation stands. -/
inductive Environment where
  | development
  | test
  | preview
  | production
deriving DecidableEq

namespace Environment

/-- The name of an environment. -/
def text : Environment → String
  | development => "development"
  | test => "test"
  | preview => "preview"
  | production => "production"

/-- All environments. -/
def all : List Environment := [development, test, preview, production]

/-- The environment of a name. -/
def ofText? (s : String) : Option Environment := all.find? fun e => e.text == s

end Environment

/-- The kinds of stores of objects. -/
inductive StorageKind where
  | folder
  | bucket
deriving DecidableEq

namespace StorageKind

/-- The name of a kind of store. -/
def text : StorageKind → String
  | folder => "local"
  | bucket => "s3"

/-- All kinds of stores. -/
def all : List StorageKind := [folder, bucket]

/-- The kind of store of a name. -/
def ofText? (s : String) : Option StorageKind := all.find? fun k => k.text == s

end StorageKind

/-- How objects are stored. -/
structure StorageSettings where
  kind : StorageKind
  folder : String
  publicUrl : String
  bucket : BucketSettings
  accessKey : String
  secretKey : String
deriving DecidableEq

/-- How many files an upload may have, and how many bytes a file. -/
structure UploadLimits where
  files : Int
  bytes : Int
deriving DecidableEq

/-- The settings of an installation. -/
structure Settings where
  projectName : String
  apiRoot : String
  environment : Environment
  logLevel : String
  databaseUrl : String
  databaseEcho : Bool
  storage : StorageSettings
  uploads : UploadLimits
  pageSize : Int
  origins : List String
deriving DecidableEq

namespace Settings

/-- The place of the program in the file system, as paths show it. -/
def baseMark : String := "<base>"

/-- The origins of browsers that may read answers where nothing else is said. -/
def defaultOrigins : List String :=
  ["http://localhost:3000", "http://127.0.0.1:3000", "http://localhost:5173", "http://127.0.0.1:5173"]

/-- The greatest number of items on a page. -/
def pageSizeMax : Int := 100

/-- The settings where nothing is said. -/
def default : Settings where
  projectName := "Cycling Photo Classification API"
  apiRoot := "/api/v1"
  environment := .development
  logLevel := "INFO"
  databaseUrl := "sqlite+aiosqlite:///" ++ baseMark ++ "/cycling_photos.db"
  databaseEcho := false
  storage := ⟨.folder, baseMark ++ "/storage", "http://localhost:8000/static", ⟨"", "", "", ""⟩, "", ""⟩
  uploads := ⟨50, 10 * 1024 * 1024⟩
  pageSize := 20
  origins := defaultOrigins

/-- The installation is one where the program is being developed. -/
def isDevelopment (s : Settings) : Bool := s.environment == .development

/-! ## The form of settings -/

/-- Reads a setting under its name. -/
def setting {α : Type} (name : String) (r : Reader α) (missing : α) (fields : Fields) : Checked α :=
  (MemberName.word name).withDefault r missing fields

/-- Reads one of a few names. -/
def named {α : Type} (texts : List String) (ofText? : String → Option α) : Reader α := fun v =>
  (Reader.literal texts v).andThen fun s => match ofText? s with
    | some a => .ok a
    | none => .complain (.notALiteral texts)

/-- The name of the setting that holds a list. -/
def originsName : String := "CORS_ORIGINS"

/-- The names of the settings. -/
def names : List String :=
  ["PROJECT_NAME", "API_V1_STR", "ENVIRONMENT", "LOG_LEVEL", "DATABASE_URL", "DATABASE_ECHO", "STORAGE_BACKEND",
   "STORAGE_LOCAL_DIR", "STORAGE_PUBLIC_BASE_URL", "AWS_REGION", "S3_BUCKET", "S3_ENDPOINT_URL", "AWS_ACCESS_KEY_ID",
   "AWS_SECRET_ACCESS_KEY", "CDN_URL", "MAX_UPLOAD_FILES", "MAX_UPLOAD_FILE_SIZE", "DEFAULT_PAGE_SIZE", originsName]

/-- Settings from the texts and numbers in the order of their names. -/
def assemble (projectName apiRoot : String) (environment : Environment) (logLevel databaseUrl : String)
    (databaseEcho : Bool) (kind : StorageKind) (folder publicUrl region bucket endpointUrl accessKey : String)
    (secretKey cdnUrl : String) (files bytes pageSize : Int) (origins : List String) : Settings :=
  ⟨projectName, apiRoot, environment, logLevel, databaseUrl, databaseEcho,
   ⟨kind, folder, publicUrl, ⟨bucket, region, endpointUrl, cdnUrl⟩, accessKey, secretKey⟩, ⟨files, bytes⟩,
   pageSize, origins⟩

/-- The form of settings. -/
def form : Form Settings where
  name := "Settings"
  members := names.map MemberName.word
  read fields := assemble
    <$> setting "PROJECT_NAME" Reader.text default.projectName fields
    <*> setting "API_V1_STR" Reader.text default.apiRoot fields
    <*> setting "ENVIRONMENT" (named (Environment.all.map Environment.text) Environment.ofText?)
      default.environment fields
    <*> setting "LOG_LEVEL" Reader.text default.logLevel fields
    <*> setting "DATABASE_URL" Reader.text default.databaseUrl fields
    <*> setting "DATABASE_ECHO" Reader.boolean default.databaseEcho fields
    <*> setting "STORAGE_BACKEND" (named (StorageKind.all.map StorageKind.text) StorageKind.ofText?)
      default.storage.kind fields
    <*> setting "STORAGE_LOCAL_DIR" Reader.text default.storage.folder fields
    <*> setting "STORAGE_PUBLIC_BASE_URL" Reader.text default.storage.publicUrl fields
    <*> setting "AWS_REGION" Reader.text default.storage.bucket.region fields
    <*> setting "S3_BUCKET" Reader.text default.storage.bucket.bucket fields
    <*> setting "S3_ENDPOINT_URL" Reader.text default.storage.bucket.endpointUrl fields
    <*> setting "AWS_ACCESS_KEY_ID" Reader.text default.storage.accessKey fields
    <*> setting "AWS_SECRET_ACCESS_KEY" Reader.text default.storage.secretKey fields
    <*> setting "CDN_URL" Reader.text default.storage.bucket.cdnUrl fields
    <*> setting "MAX_UPLOAD_FILES" (Reader.boundedInteger 1 none) default.uploads.files fields
    <*> setting "MAX_UPLOAD_FILE_SIZE" (Reader.boundedInteger 1 none) default.uploads.bytes fields
    <*> setting "DEFAULT_PAGE_SIZE" (Reader.boundedInteger 1 (some pageSizeMax)) default.pageSize fields
    <*> setting originsName (Reader.list Reader.text) default.origins fields
  write s :=
    [("PROJECT_NAME", .text s.projectName), ("API_V1_STR", .text s.apiRoot), ("ENVIRONMENT", .text s.environment.text),
     ("LOG_LEVEL", .text s.logLevel), ("DATABASE_URL", .text s.databaseUrl), ("DATABASE_ECHO", .bool s.databaseEcho),
     ("STORAGE_BACKEND", .text s.storage.kind.text), ("STORAGE_LOCAL_DIR", .text s.storage.folder),
     ("STORAGE_PUBLIC_BASE_URL", .text s.storage.publicUrl), ("AWS_REGION", .text s.storage.bucket.region),
     ("S3_BUCKET", .text s.storage.bucket.bucket), ("S3_ENDPOINT_URL", .text s.storage.bucket.endpointUrl),
     ("AWS_ACCESS_KEY_ID", .text s.storage.accessKey), ("AWS_SECRET_ACCESS_KEY", .text s.storage.secretKey),
     ("CDN_URL", .text s.storage.bucket.cdnUrl), ("MAX_UPLOAD_FILES", .int s.uploads.files),
     ("MAX_UPLOAD_FILE_SIZE", .int s.uploads.bytes), ("DEFAULT_PAGE_SIZE", .int s.pageSize),
     (originsName, .list (s.origins.map .text))]

/-- A store in a bucket needs the name of the bucket. -/
def missingBucket : String := "S3_BUCKET is required when STORAGE_BACKEND is 's3'"

/-- Settings that are complete. A problem of a single setting hides that of the whole. -/
def checkStorage (s : Settings) : Checked Settings :=
  if s.storage.kind = .bucket ∧ s.storage.bucket.bucket = "" then .complain (.rule missingBucket) else .ok s

/-- Settings out of values by name. -/
def ofFields (fields : Fields) : Checked Settings := (form.read fields).andThen checkStorage

/-! ## The environment -/

/-- A name in small letters. -/
def fold (name : String) : String := String.ofList (lowerCase name.toList)

/-- What the environment says under a name: of several spellings of the name the last counts. -/
def said? (env : List (String × String)) (name : String) : Option String :=
  (env.reverse.find? fun v => fold v.1 == fold name).map Prod.snd

/-- What the environment says about the setting of a name. A list is written as JSON, where nothing means that nothing
is said. -/
def ofVariable (env : List (String × String)) (name : String) : Except Failure Fields :=
  match said? env name with
  | none => .ok []
  | some s =>
    if name = originsName then
      match Value.ofJson s with
      | .error (.tooDeep last) => .error (.nestedTooDeep last)
      | .error _ => .error (.unreadableSetting name)
      | .ok .null => .ok []
      | .ok v => .ok [(name, v)]
    else .ok [(name, .text s)]

/-- All that the environment says. -/
def ofVariables (env : List (String × String)) : Except Failure Fields :=
  (names.mapM (ofVariable env)).map List.flatten

/-- What is given directly for the setting of a name: a value under the name as it is, or else under another spelling
of it. -/
def given? (given : Fields) (name : String) : Option (String × Value) :=
  match given.find? name with
  | some v => some (name, v)
  | none => (List.find? (fun (n, _) => fold n == fold name) given).map fun (_, v) => (name, v)

/-- The settings of an installation with an environment and with values that are given directly. -/
def load (env : List (String × String)) (given : Fields) : Except Failure Settings := do
  let said ← ofVariables env
  (ofFields (names.filterMap (given? given) ++ said)).toExcept .value

/-! ## The store -/

/-- The store that the settings describe, with nothing in it. -/
def emptyStore (s : StorageSettings) : Except Failure Storage := match s.kind with
  | .folder => .ok (.folder ⟨.empty, s.publicUrl⟩)
  | .bucket => (BucketStore.connect s.bucket s.accessKey s.secretKey).map .bucket

end Settings

end RaceAlbum
