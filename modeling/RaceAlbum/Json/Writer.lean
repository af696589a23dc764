import RaceAlbum.Json.Value
import RaceAlbum.Number.Shortest

/-!
# JSON written as text

Values are written without blanks, in ASCII: a character outside it is written as one or two code units in
hexadecimal. A number that is not finite is an object with its name, and so is a decimal, whose text keeps its places.
-/

namespace RaceAlbum

namespace JsonWriter

/-- A code unit as an escape. -/
def unitEscape (n : Nat) : List Char := '\\' :: 'u' :: hexDigits 4 n

/-- A code point inside a string. -/
def escape (n : Nat) : List Char :=
  if n = '"'.toNat then ['\\', '"']
  else if n = '\\'.toNat then ['\\', '\\']
  else if 0x20 ≤ n ∧ n < 0x7F then [Char.ofNat n]
  else if n < 0x10000 then unitEscape n
  else unitEscape (0xD800 + (n - 0x10000) / 0x400) ++ unitEscape (0xDC00 + (n - 0x10000) % 0x400)

/-- Code points between quotes. -/
def points (ns : List Nat) : String := "\"" ++ String.ofList (ns.flatMap escape) ++ "\""

/-- A string between its quotes. -/
def string (s : String) : String := points (s.toList.map Char.toNat)

/-- An object of one member. -/
def tagged (name body : String) : String := "\x7b" ++ string name ++ ":" ++ body ++ "\x7d"

end JsonWriter

namespace Value

mutual

/-- The value as JSON. -/
def json : Value → String
  | null => "null"
  | bool b => if b then "true" else "false"
  | int n => intText n
  | float x => if x.isFinite then x.text else JsonWriter.tagged "float" (JsonWriter.string x.text)
  | text s => JsonWriter.string s
  | brokenText ns => JsonWriter.points ns
  | list vs => "[" ++ String.intercalate "," (jsonList vs) ++ "]"
  | object fields => "\x7b" ++ String.intercalate "," (jsonFields fields) ++ "\x7d"
  | uuid u => JsonWriter.string u.text
  | date d => JsonWriter.string d.text
  | stamp s => JsonWriter.string s.text
  | decimal d => JsonWriter.tagged "dec" (JsonWriter.string d.text)

/-- The items of a list as JSON. -/
def jsonList : List Value → List String
  | [] => []
  | v :: vs => json v :: jsonList vs

/-- The members of an object as JSON. -/
def jsonFields : List (String × Value) → List String
  | [] => []
  | (n, v) :: fields => (JsonWriter.string n ++ ":" ++ json v) :: jsonFields fields

end

end Value

end RaceAlbum
