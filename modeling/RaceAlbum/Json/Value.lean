import RaceAlbum.Calendar.Reading
import RaceAlbum.Number.ExtendedDecimal
import RaceAlbum.Uuid

/-!
# Values

A value is what a message, a row or a setting holds: a JSON value, or a scalar that has a type of its own and no
JSON form yet. `Value.wire` gives the form in which an answer carries it. JSON can spell a text that is none, since half
of a pair of code units stands alone in it; such a text is kept by its code points.
-/

namespace RaceAlbum

/-- A value: JSON, and the scalars that are written as JSON texts. -/
inductive Value where
  | null
  | bool (b : Bool)
  | int (n : Int)
  | float (x : Binary64)
  | text (s : String)
  | brokenText (points : List Nat)
  | list (vs : List Value)
  | object (fields : List (String × Value))
  | uuid (u : Uuid)
  | date (d : Date)
  | stamp (s : Stamp)
  | decimal (d : ExtendedDecimal)

/-- The members of an object, in order. -/
abbrev Fields := List (String × Value)

namespace Fields

/-- Sets a member: in its place when the name is there, at the end otherwise. -/
def insert (name : String) (v : Value) : Fields → Fields
  | [] => [(name, v)]
  | (n, w) :: rest => if n = name then (n, v) :: rest else (n, w) :: insert name v rest

/-- The member of a name. -/
def find? (fields : Fields) (name : String) : Option Value := List.lookup name fields

/-- Whether there is a member of a name. -/
def has (fields : Fields) (name : String) : Bool := (fields.find? name).isSome

end Fields

namespace Value

/-- A value that may be missing. -/
def ofOption {α : Type} (f : α → Value) : Option α → Value
  | none => null
  | some a => f a

mutual

/-- The value as an answer carries it: identifiers, dates and stamps as texts, with `Z` for universal time, and
nothing in the place of a number that is not finite. -/
def wire : Value → Value
  | uuid u => text u.text
  | date d => text d.text
  | stamp s => text s.wireText
  | float x => if x.isFinite then float x else null
  | list vs => list (wireList vs)
  | object fields => object (wireFields fields)
  | v => v

/-- The values of a list as an answer carries them. -/
def wireList : List Value → List Value
  | [] => []
  | v :: vs => wire v :: wireList vs

/-- The members of an object as an answer carries them. -/
def wireFields : List (String × Value) → List (String × Value)
  | [] => []
  | (n, v) :: fields => (n, wire v) :: wireFields fields

end

mutual

/-- Whether all numbers of a value are finite. -/
def isFinite : Value → Bool
  | float x => x.isFinite
  | list vs => listIsFinite vs
  | object fields => fieldsAreFinite fields
  | _ => true

/-- Whether all numbers of the items of a list are finite. -/
def listIsFinite : List Value → Bool
  | [] => true
  | v :: vs => isFinite v && listIsFinite vs

/-- Whether all numbers of the members of an object are finite. -/
def fieldsAreFinite : List (String × Value) → Bool
  | [] => true
  | (_, v) :: fields => isFinite v && fieldsAreFinite fields

end

end Value

end RaceAlbum
