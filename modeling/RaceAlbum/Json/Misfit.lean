import RaceAlbum.Json.Spelling
import RaceAlbum.Text.Numeral

/-!
# Values that do not fit

An operation on a value of any kind may find that it cannot be done. Its misfit tells why: the value is of the wrong
kind, or it is of the right kind and of no use, or it lacks a part, or the result would be too large. Here are the
operations on loose values, each with its misfits: to a number, to an integer, to a dictionary, to an order.
-/

namespace RaceAlbum

/-- Why an operation on a value cannot be done. -/
inductive Misfit where
  | notNumeric (v : Value)
  | numberUnreadable (s : String)
  | signalingNumber
  | signalingName
  | tooLargeForNumber
  | notIntegral (v : Value)
  | integerUnreadable (s : String)
  | integerTooLong (digits : Nat)
  | infiniteNumber
  | noNumber
  | infiniteDecimal
  | noDecimal
  | notAStamp (v : Value)
  | notIterable (v : Value)
  | notAPair (index : Nat)
  | pairLength (index length : Nat)
  | nameNotFixed (v : Value)
  | incomparable (left right : String)
  | unordered
  | tooLargeForPlace
  | zeroByte

/-- What a misfit is about: the kind of a value, the value itself, a part of it, its size, or its place in an order. -/
inductive MisfitKind where
  | kind
  | value
  | part
  | size
  | order
deriving DecidableEq

namespace Misfit

/-- What the misfit is about. -/
def kind : Misfit → MisfitKind
  | notNumeric _ | notIntegral _ | notIterable _ | notAPair _ | nameNotFixed _ | signalingName
  | incomparable .. => .kind
  | notAStamp _ => .part
  | unordered => .order
  | tooLargeForNumber | infiniteNumber | infiniteDecimal | tooLargeForPlace => .size
  | numberUnreadable _ | signalingNumber | integerUnreadable _ | integerTooLong _ | noNumber | noDecimal
  | pairLength .. | zeroByte => .value

/-- The misfit in words. -/
def words : Misfit → String
  | notNumeric v => "float() argument must be a string or a real number, not '" ++ v.kindName ++ "'"
  | numberUnreadable s => "could not convert string to float: " ++ quoted s
  | signalingNumber => "cannot convert signaling NaN to float"
  | signalingName => "Cannot hash a signaling NaN value"
  | tooLargeForNumber => "int too large to convert to float"
  | notIntegral v =>
    "int() argument must be a string, a bytes-like object or a real number, not '" ++ v.kindName ++ "'"
  | integerUnreadable s => "invalid literal for int() with base 10: " ++ quoted s
  | integerTooLong n => "Exceeds the limit (4300 digits) for integer string conversion: value has " ++ natText n ++
    " digits; use sys.set_int_max_str_digits() to increase the limit"
  | infiniteNumber => "cannot convert float infinity to integer"
  | noNumber => "cannot convert float NaN to integer"
  | infiniteDecimal => "cannot convert Infinity to integer"
  | noDecimal => "cannot convert NaN to integer"
  | notAStamp v => "'" ++ v.kindName ++ "' object has no attribute 'tzinfo'"
  | notIterable v => "'" ++ v.kindName ++ "' object is not iterable"
  | notAPair i => "cannot convert dictionary update sequence element #" ++ natText i ++ " to a sequence"
  | pairLength i n =>
    "dictionary update sequence element #" ++ natText i ++ " has length " ++ natText n ++ "; 2 is required"
  | nameNotFixed v => "unhashable type: '" ++ v.kindName ++ "'"
  | incomparable left right => "'<' not supported between instances of '" ++ left ++ "' and '" ++ right ++ "'"
  | unordered => "[<class 'decimal.InvalidOperation'>]"
  | tooLargeForPlace => "Python int too large to convert to C ssize_t"
  | zeroByte => "embedded null byte"

end Misfit

/-- A number in binary64, of a text that a person may have typed. -/
def numberOfText (s : String) : Except Misfit Binary64 :=
  match (plainNumeral? s).bind Binary64.ofChars? with
  | some x => .ok x
  | none => .error (.numberUnreadable s)

/-- An integer, of a text that a person may have typed. -/
def integerOfText (s : String) : Except Misfit Int :=
  match plainNumeral? s with
  | none => .error (.integerUnreadable s)
  | some cs =>
    let (negative, ds) := Decimal.splitSign cs
    let (digits, rest) := spanDigits ds
    if JsonReader.integerDigitsMax < digits.length then .error (.integerTooLong digits.length)
    else if digits.isEmpty || !rest.isEmpty then .error (.integerUnreadable s)
    else .ok (if negative then -(ofDigits digits : Int) else ofDigits digits)

namespace Value

/-- A value as a number in binary64. -/
def toNumber : Value → Except Misfit Binary64
  | float x => .ok x
  | int n =>
    let x := Binary64.ofInt n
    if x.isFinite then .ok x else .error .tooLargeForNumber
  | bool b => .ok (.ofInt (if b then 1 else 0))
  | decimal d => match d.toBinary64? with
    | some x => .ok x
    | none => .error .signalingNumber
  | text s => numberOfText s
  | v => .error (.notNumeric v)

/-- A value as an integer, with what comes after the point cut off. -/
def toInteger : Value → Except Misfit Int
  | int n => .ok n
  | bool b => .ok (if b then 1 else 0)
  | float .nan => .error .noNumber
  | float x => if x.isFinite then .ok x.truncate else .error .infiniteNumber
  | decimal (.finite d) => .ok d.truncate
  | decimal (.infinity _) => .error .infiniteDecimal
  | decimal (.nan ..) => .error .noDecimal
  | uuid id => .ok id.value
  | text s => integerOfText s
  | v => .error (.notIntegral v)

/-- A value as the name of a member; a list or an object, which may change, is none, nor is a signalling decimal. -/
def toName : Value → Except Misfit String
  | text s => .ok s
  | list vs => .error (.nameNotFixed (list vs))
  | object fields => .error (.nameNotFixed (object fields))
  | decimal (.nan _ true _) => .error .signalingName
  | bool b => .ok (if b then "true" else "false")
  | null => .ok "null"
  | v => .ok v.spell

/-- The parts that a value falls into: the items of a list, the names of an object, the characters of a text. -/
def parts? : Value → Option (List Value)
  | list vs => some vs
  | object fields => some (fields.map fun (name, _) => text name)
  | text s => some (s.toList.map fun c => text (String.ofList [c]))
  | _ => none

/-- The members that pairs of a name and a value give, after those already there; `index` is that of the first pair. -/
def membersOfPairs (index : Nat) (members : Fields) : List Value → Except Misfit Fields
  | [] => .ok members
  | pair :: rest => match pair.parts? with
    | none => .error (.notAPair index)
    | some [name, v] => do
      let name ← name.toName
      membersOfPairs (index + 1) (members.insert name v) rest
    | some parts => .error (.pairLength index parts.length)

/-- A value as a dictionary: one itself, or pairs of a name and a value. -/
def toDictionary : Value → Except Misfit Fields
  | object fields => .ok fields
  | v => match v.parts? with
    | some pairs => membersOfPairs 0 [] pairs
    | none => .error (.notIterable v)

end Value

end RaceAlbum
