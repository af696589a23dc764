import RaceAlbum.Message
import RaceAlbum.Schema.Problem

/-!
# Refusals

A refusal is an outcome that the program foresees: something is not there, a request is malformed, a rule of the
domain is broken, a service that the program relies on has failed, or the program was asked for what it never does. Each
has a status, a code, a message key and, where it helps, a context.
-/

namespace RaceAlbum

/-- The rules of the domain, as far as they can be broken. -/
inductive Rule where
  | nameLength
  | dateInPast
  | filenameEmpty
  | mimeType
  | fileSize
  | duplicateFilename
  | plateNumberRange
  | densityRange
deriving DecidableEq

/-- The message key of a rule. -/
def Rule.key : Rule → String
  | nameLength => "event.name_invalid_length"
  | dateInPast => "event.date_in_past"
  | filenameEmpty => "photo.filename_empty"
  | mimeType => "photo.invalid_mime_type"
  | fileSize => "photo.invalid_file_size"
  | duplicateFilename => "photo.duplicate_filename"
  | plateNumberRange => "photo.plate_number_out_of_range"
  | densityRange => "photo.density_percentage_out_of_range"

/-- Messages about the fields of a request, by field. -/
abbrev FieldMessages := List (String × List String)

/-- An outcome other than success that the program foresees. -/
inductive Refusal where
  | notFound (entity id : String)
  | invalid (fields : FieldMessages)
  | broken (key : String) (shouldThrow : Bool)
  | serviceFailed (service : String) (cause : Option String)
  | internal (key : String) (context : Option Fields)

namespace Refusal

/-- A rule of the domain is broken. -/
def ofRule (r : Rule) : Refusal := broken r.key false

/-- The status of the answer to a request that ends so. -/
def status : Refusal → Nat
  | notFound .. => 404
  | invalid _ => 400
  | broken .. => 422
  | serviceFailed .. => 502
  | internal .. => 500

/-- The code by which clients tell refusals apart. -/
def code : Refusal → String
  | notFound .. => "NOT_FOUND"
  | invalid _ => "VALIDATION_FAILED"
  | broken .. => "BUSINESS_RULE"
  | serviceFailed .. => "EXTERNAL_SERVICE"
  | internal .. => "INTERNAL"

/-- The key of the message. -/
def key : Refusal → String
  | notFound .. => "errors.NOT_FOUND"
  | invalid _ => "errors.VALIDATION_FAILED"
  | broken key _ => key
  | serviceFailed .. => "errors.EXTERNAL_SERVICE"
  | internal key _ => key

/-- Whether a client is meant to stop at this refusal. -/
def shouldThrow : Refusal → Bool
  | broken _ b => b
  | _ => false

/-- The circumstances of the refusal. -/
def context : Refusal → Option Fields
  | notFound entity id => some [("entity", .text entity), ("id", .text id)]
  | serviceFailed service cause => some [("service", .text service), ("originalError", .ofOption .text cause)]
  | internal _ context => context
  | _ => none

/-- The messages about the fields of the request. -/
def fields : Refusal → Option FieldMessages
  | invalid fields => some fields
  | _ => none

/-- The message. -/
def message (r : Refusal) : String := Message.resolve r.key (r.context.getD [])

end Refusal

/-- Messages about fields as a value. -/
def FieldMessages.value (fields : FieldMessages) : Value :=
  .object (fields.map fun (name, messages) => (name, .list (messages.map .text)))

/-- Adds a message about a field, after those already there. -/
def FieldMessages.add (name message : String) : FieldMessages → FieldMessages
  | [] => [(name, [message])]
  | (n, ms) :: rest => if n = name then (n, ms ++ [message]) :: rest else (n, ms) :: add name message rest

end RaceAlbum
