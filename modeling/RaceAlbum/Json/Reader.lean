import RaceAlbum.Json.Value

/-!
# JSON read from text

The grammar is that of JSON with `NaN`, `Infinity` and `-Infinity` beside the numbers. A name that comes twice in an
object keeps its first place and its last value. A text that is no JSON is refused with the position at which the
reader could not go on; a string that does not end is refused at its opening quote. So is a text whose lists and
objects lie too deep inside each other.
-/

namespace RaceAlbum

/-- What may lie inside each other. -/
inductive Nest where
  | list
  | object
deriving DecidableEq

/-- Why a text is no JSON value: it goes wrong at a position, or it holds an integer of too many digits, or its lists
and objects lie too deep, the last of them a list or an object. -/
inductive JsonFault where
  | badAt (position : Nat)
  | integerTooLong
  | tooDeep (last : Nest)
deriving DecidableEq

namespace JsonReader

/-- A failure while reading: the number of characters that were left, an integer of too many digits, or a list or an
object that lies too deep. -/
inductive Stop where
  | left (count : Nat)
  | integerTooLong
  | tooDeep (last : Nest)

/-- Reading stops in front of these characters. -/
def stop {α : Type} (rest : List Char) : Except Stop α := .error (.left rest.length)

/-- The most digits that an integer may have. -/
def integerDigitsMax : Nat := 4300

/-- How many lists and objects may lie inside each other. -/
def depthMax : Nat := 950

/-- The blanks between the parts of a value. -/
def isSpace (c : Char) : Bool := c == ' ' || c == '\t' || c == '\n' || c == '\r'

/-- Drops blanks in front. -/
def skip (cs : List Char) : List Char := cs.dropWhile isSpace

/-- The character that an escape of one letter stands for. -/
def shortEscape? (c : Char) : Option Char :=
  match c with
  | '"' => some '"'
  | '\\' => some '\\'
  | '/' => some '/'
  | 'b' => some '\x08'
  | 'f' => some '\x0c'
  | 'n' => some '\n'
  | 'r' => some '\r'
  | 't' => some '\t'
  | _ => none

/-- Reads four hexadecimal digits that something follows. -/
def fourHex? : List Char → Option (Nat × List Char)
  | a :: b :: c :: d :: e :: rest =>
    if [a, b, c, d].all (fun x => (Uuid.hexValue? x).isSome) then
      some (Uuid.ofHexDigits [a, b, c, d], e :: rest)
    else none
  | _ => none

/-- The high halves of surrogate pairs. -/
def isHighSurrogate (n : Nat) : Bool := 0xD800 ≤ n && n ≤ 0xDBFF

/-- The low halves of surrogate pairs. -/
def isLowSurrogate (n : Nat) : Bool := 0xDC00 ≤ n && n ≤ 0xDFFF

/-- Halves of surrogate pairs. -/
def isSurrogate (n : Nat) : Bool := isHighSurrogate n || isLowSurrogate n

/-- The character of a code point; a half of a pair that stands alone is replaced. -/
def pointChar (n : Nat) : Char := if isSurrogate n then '\uFFFD' else Char.ofNat n

/-- Reads the code points of the rest of a string after its opening quote; `opened` is the number of characters left
at that quote. -/
def stringRest (opened : Nat) : (fuel : Nat) → List Char → (read : List Nat) → Except Stop (List Nat × List Char)
  | 0, _, _ => .error (.left opened)
  | _, [], _ => .error (.left opened)
  | fuel + 1, c :: cs, read =>
    if c = '"' then .ok (read.reverse, cs)
    else if c = '\\' then
      match cs with
      | [] => .error (.left opened)
      | 'u' :: hex =>
        match fourHex? hex with
        | none => stop ('u' :: hex)
        | some (n, rest) =>
          if isHighSurrogate n then
            match rest with
            | '\\' :: 'u' :: low =>
              match fourHex? low with
              | some (m, rest') =>
                if isLowSurrogate m then
                  stringRest opened fuel rest' ((0x10000 + (n - 0xD800) * 0x400 + (m - 0xDC00)) :: read)
                else stringRest opened fuel rest (n :: read)
              | none => if low.length < 5 then stringRest opened fuel rest (n :: read) else stop ('u' :: low)
            | _ => stringRest opened fuel rest (n :: read)
          else stringRest opened fuel rest (n :: read)
      | e :: rest =>
        match shortEscape? e with
        | some x => stringRest opened fuel rest (x.toNat :: read)
        | none => stop (c :: cs)
    else if c.toNat < 0x20 then stop (c :: cs)
    else stringRest opened fuel cs (c.toNat :: read)

/-- Reads the code points of a string whose opening quote comes first in `cs`. -/
def string (cs : List Char) : Except Stop (List Nat × List Char) := stringRest cs.length cs.length (cs.drop 1) []

/-- The name that code points spell. -/
def nameOf (points : List Nat) : String := String.ofList (points.map pointChar)

/-- The text that code points spell, or the points themselves where they spell none. -/
def textOf (points : List Nat) : Value := if points.any isSurrogate then .brokenText points else .text (nameOf points)

/-- Reads the digits of a fraction after its point: the digits and the rest, or nothing where no digit follows. -/
def fraction : List Char → List Char × List Char
  | '.' :: cs =>
    let (ds, rest) := spanDigits cs
    if ds.isEmpty then ([], '.' :: cs) else (ds, rest)
  | cs => ([], cs)

/-- Reads a power of ten: its value and the rest, or nothing where no digit follows the mark. -/
def power? : List Char → Option (Int × List Char)
  | c :: cs =>
    if c = 'e' ∨ c = 'E' then
      let (negative, cs) := Decimal.splitSign cs
      let (ds, rest) := spanDigits cs
      if ds.isEmpty then none else some (if negative then -(ofDigits ds : Int) else ofDigits ds, rest)
    else none
  | [] => none

/-- Reads a number; `start` is where it begins, sign included. -/
def number (start : List Char) : Except Stop (Value × List Char) :=
  let (negative, cs) := match start with
    | '-' :: cs => (true, cs)
    | cs => (false, cs)
  let (whole, rest) := match cs with
    | '0' :: rest => (['0'], rest)
    | cs => spanDigits cs
  if whole.isEmpty then stop start
  else
    let (ds, rest) := fraction rest
    match power? rest with
    | some (power, rest) =>
      .ok (.float (Decimal.toBinary64 ⟨negative, ofDigits (whole ++ ds), power - ds.length⟩), rest)
    | none =>
      if ds.isEmpty then
        if integerDigitsMax < whole.length then .error .integerTooLong
        else .ok (.int (if negative then -(ofDigits whole : Int) else ofDigits whole), rest)
      else .ok (.float (Decimal.toBinary64 ⟨negative, ofDigits (whole ++ ds), -ds.length⟩), rest)

/-- The words that stand for values. -/
def words : List (List Char × Value) :=
  [("null".toList, .null), ("true".toList, .bool true), ("false".toList, .bool false), ("NaN".toList, .float .nan),
   ("Infinity".toList, .float (.infinity false)), ("-Infinity".toList, .float (.infinity true))]

/-- Reads a word that stands for a value. -/
def word? (cs : List Char) : Option (Value × List Char) :=
  words.findSome? fun (w, v) => if w.isPrefixOf cs then some (v, cs.drop w.length) else none

mutual

/-- Reads a value; `depth` more lists and objects may lie inside each other. -/
def value : (fuel depth : Nat) → List Char → Except Stop (Value × List Char)
  | 0, _, cs => stop cs
  | fuel + 1, depth, cs =>
    match cs with
    | [] => stop []
    | '"' :: _ => do
      let (points, rest) ← string cs
      return (textOf points, rest)
    | '{' :: rest =>
      match depth with
      | 0 => .error (.tooDeep .object)
      | depth + 1 =>
        match skip rest with
        | '}' :: rest => .ok (.object [], rest)
        | rest => members fuel depth rest []
    | '[' :: rest =>
      match depth with
      | 0 => .error (.tooDeep .list)
      | depth + 1 =>
        match skip rest with
        | ']' :: rest => .ok (.list [], rest)
        | rest => items fuel depth rest []
    | cs =>
      match word? cs with
      | some found => .ok found
      | none => number cs

/-- Reads the members of an object up to its closing brace, after those already read. -/
def members : (fuel depth : Nat) → List Char → Fields → Except Stop (Value × List Char)
  | 0, _, cs, _ => stop cs
  | fuel + 1, depth, cs, read =>
    match cs with
    | '"' :: _ => do
      let (name, rest) ← string cs
      match skip rest with
      | ':' :: rest =>
        let (v, rest) ← value fuel depth (skip rest)
        let read := Fields.insert (nameOf name) v read
        match skip rest with
        | '}' :: rest => return (.object read, rest)
        | ',' :: rest => members fuel depth (skip rest) read
        | rest => stop rest
      | rest => stop rest
    | cs => stop cs

/-- Reads the items of a list up to its closing bracket, after those already read, the last one first. -/
def items : (fuel depth : Nat) → List Char → (read : List Value) → Except Stop (Value × List Char)
  | 0, _, cs, _ => stop cs
  | fuel + 1, depth, cs, read => do
    let (v, rest) ← value fuel depth cs
    match skip rest with
    | ']' :: rest => return (.list (v :: read).reverse, rest)
    | ',' :: rest => items fuel depth (skip rest) (v :: read)
    | rest => stop rest

end

/-- Reads a whole text as a value. -/
def whole (cs : List Char) : Except JsonFault Value :=
  let size := cs.length
  match value (2 * size + 2) depthMax (skip cs) with
  | .error (.left n) => .error (.badAt (size - n))
  | .error .integerTooLong => .error .integerTooLong
  | .error (.tooDeep last) => .error (.tooDeep last)
  | .ok (v, rest) =>
    match skip rest with
    | [] => .ok v
    | rest => .error (.badAt (size - rest.length))

end JsonReader

/-- Reads a whole text as a JSON value. -/
def Value.ofJson (s : String) : Except JsonFault Value := JsonReader.whole s.toList

end RaceAlbum
