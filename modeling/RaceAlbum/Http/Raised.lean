import RaceAlbum.Http.Envelope
import RaceAlbum.Schema.Scalar

/-!
# Errors that are raised with loose values

A refusal may be raised with values of any kind in the place of its key, its context or its fields. It can be told to a
client only if these have the kinds that an answer needs; else the telling itself fails.
-/

namespace RaceAlbum

/-- A refusal of which only status and code are certain. -/
structure RaisedError where
  key : Value
  status : Int
  code : String
  shouldThrow : Value
  context : Value
  fields : Value

namespace RaisedError

/-- There is no entity of a kind with an identifier. -/
def notFound (entity id : Value) : RaisedError :=
  ⟨.text "errors.NOT_FOUND", 404, "NOT_FOUND", .bool false, .object [("entity", entity), ("id", .text id.spell)], .null⟩

/-- The fields of a request are malformed. -/
def invalid (fields : Value) : RaisedError :=
  ⟨.text "errors.VALIDATION_FAILED", 400, "VALIDATION_FAILED", .bool false, .null, fields⟩

/-- A rule of the domain is broken. -/
def broken (key shouldThrow : Value) : RaisedError := ⟨key, 422, "BUSINESS_RULE", shouldThrow, .null, .null⟩

/-- A service that the program relies on has failed. -/
def serviceFailed (service : Value) (cause : Option String) : RaisedError :=
  ⟨.text "errors.EXTERNAL_SERVICE", 502, "EXTERNAL_SERVICE", .bool false,
   .object [("service", service), ("originalError", .ofOption .text cause)], .null⟩

/-- The program was asked for what it never does. -/
def internal (key context : Value) : RaisedError := ⟨key, 500, "INTERNAL", .bool false, context, .null⟩

/-- The message of a key, with the arguments of a context; a key that no message can have stays as it is. -/
def message (e : RaisedError) : Except Misfit Value :=
  match e.key, e.context with
  | .text key, .object args => .ok (.text (Message.resolve key args))
  | .text key, _ => .ok (.text (Message.resolve key []))
  | .list vs, _ => .error (.nameNotFixed (.list vs))
  | .object fields, _ => .error (.nameNotFixed (.object fields))
  | key, _ => .ok key

/-- Messages about fields, by field. -/
def fieldMessages : Reader (Option FieldMessages) := Reader.optional (Reader.dictionary (Reader.list Reader.text))

/-- The report of the error, if its values have the right kinds. -/
def report (e : RaisedError) : Except Failure ErrorReport := do
  let message ← e.message.mapError .misfit
  let checked : Checked ErrorReport :=
    (fun message shouldThrow fields => ErrorReport.mk e.status e.code message shouldThrow fields e.context)
      <$> (Reader.text message).under (.member "message")
      <*> (Reader.boolean e.shouldThrow).under (.member "should_throw")
      <*> (fieldMessages e.fields).under (.member "fields")
  checked.toExcept .value

end RaisedError

end RaceAlbum
