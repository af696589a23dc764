import RaceAlbum.Schema.Checked
import RaceAlbum.Text.Blank

/-!
# Readers of scalars

Texts, numbers, booleans, identifiers, dates and stamps, read with the leniency that messages need: a number may come
as a text, a date as a timestamp, a boolean as a word. Each refusal has its cause.
-/

namespace RaceAlbum

namespace LooseText

/-- The most characters that the sign and the digits of an integer may have. -/
def integerLengthMax : Nat := 4300

/-- Reads an integer in its strict form: a minus or no sign, and digits of which the first is zero only where it is the
only one. A run of digits that is too long is refused for that, whatever comes after it. -/
def strictInteger (cs : List Char) : Except Complaint Int :=
  let negative := cs.head? = some '-'
  let (ds, rest) := spanDigits (if negative then cs.drop 1 else cs)
  let n : Int := if negative then -(ofDigits ds : Int) else ofDigits ds
  if ds.isEmpty || (ds.head? = some '0' && 1 < ds.length) then .error .integerUnreadable
  else if integerLengthMax < cs.length - rest.length then .error .integerTooLong
  else if rest.isEmpty then .ok n
  else .error .integerUnreadable

/-- Drops zeros and underscores in front, after a first zero: a digit or a minus begins what is left, or the character
before a point. `last` is the character before. -/
def afterZeros? (last : Char) : List Char → Option (List Char)
  | [] => some [last]
  | c :: rest =>
    if c = '0' ∨ c = '_' then afterZeros? c rest
    else if c = '.' then some (last :: c :: rest)
    else if c = '-' ∨ isDigit c then some (c :: rest)
    else none

/-- Drops the zeros in front of a text that begins as an integer does. -/
def dropLeadingZeros? : List Char → Option (List Char)
  | '0' :: rest => afterZeros? '0' rest
  | c :: rest => if c = '-' ∨ isDigit c then some (c :: rest) else none
  | [] => none

/-- Drops a point with zeros after it. -/
def dropZeroFraction (cs : List Char) : List Char :=
  match cs.span (· != '.') with
  | (front, _ :: zeros) => if !zeros.isEmpty && zeros.all (· == '0') then front else cs
  | _ => cs

/-- Whether two underscores stand side by side. -/
def hasDoubleUnderscore : List Char → Bool
  | '_' :: '_' :: _ => true
  | _ :: rest => hasDoubleUnderscore rest
  | [] => false

/-- Drops underscores where each stands by itself and inside the text. -/
def dropUnderscores (cs : List Char) : List Char :=
  if cs.head? = some '_' ∨ cs.getLast? = some '_' ∨ hasDoubleUnderscore cs then cs else cs.filter (· != '_')

/-- What a lenient spelling of an integer leaves of it: without blanks around it, a plus in front, zeros in front, zeros
after a point, and underscores. -/
def cleanInteger? (cs : List Char) : Option (List Char) :=
  let cs := trim isBlank cs
  let unsigned := match cs with
    | '+' :: '-' :: _ => []
    | '+' :: rest => rest
    | _ => cs
  (dropLeadingZeros? unsigned).map fun cs => dropUnderscores (dropZeroFraction cs)

/-- Reads an integer: in its strict form, or else what a lenient spelling leaves of it. -/
def integer (s : String) : Except Complaint Int :=
  match strictInteger s.toList with
  | .error .integerUnreadable =>
    match (cleanInteger? s.toList).map strictInteger with
    | some (.ok n) => .ok n
    | _ => .error .integerUnreadable
  | r => r

/-- Reads a binary64 number: blanks around it, or single underscores inside it. -/
def binary64? (s : String) : Option Binary64 :=
  match Binary64.ofChars? (trim isBlank s.toList) with
  | some x => some x
  | none =>
    Binary64.ofChars? (dropUnderscores s.toList)

/-- The words that mean yes. -/
def yesWords : List String := ["1", "on", "t", "true", "y", "yes"]

/-- The words that mean no. -/
def noWords : List String := ["0", "off", "f", "false", "n", "no"]

/-- Reads a word of yes or no in letters of any case. -/
def boolean? (s : String) : Option Bool :=
  let word := String.ofList (s.toList.map Char.toLower)
  if yesWords.contains word then some true else if noWords.contains word then some false else none

end LooseText

namespace Reader

/-- Turns a result with a cause into a check. -/
def ofExcept {α : Type} : Except Complaint α → Checked α
  | .ok a => .ok a
  | .error c => .complain c

/-- Any value. -/
def any : Reader Value := .ok

/-- A text. -/
def text : Reader String
  | .text s => .ok s
  | .brokenText _ => .complain .textBroken
  | _ => .complain .notText

/-- A text of a number of characters between two limits. -/
def boundedText (least most : Nat) : Reader String := fun v => (text v).andThen fun s =>
  if most < s.length then .complain (.textTooLong most)
  else if s.length < least then .complain (.textTooShort least)
  else .ok s

/-- A text of a pattern, which is named in the refusal. -/
def patternText (pattern : String) (accepts : List Char → Bool) : Reader String := fun v => (text v).andThen fun s =>
  if accepts s.toList then .ok s else .complain (.patternMismatch pattern)

/-- The integer of a binary64 number, which lies strictly between the limits of 64 bits. -/
def integerOfBinary64 (x : Binary64) : Except Complaint Int :=
  if !x.isFinite then .error .notFinite
  else if !x.isIntegral then .error .integerWithFraction
  else if x.truncate.natAbs < twoPow 63 then .ok x.truncate
  else .error .integerTooLong

/-- Whether a decimal is an integer. -/
def decimalIsIntegral (d : Decimal) : Bool := 0 ≤ d.exponent || d.digits % tenPow (-d.exponent).toNat == 0

/-- An integer of any size. -/
def integer : Reader Int
  | .int n => .ok n
  | .bool b => .ok (if b then 1 else 0)
  | .float x => ofExcept (integerOfBinary64 x)
  | .text s => ofExcept (LooseText.integer s)
  | .brokenText _ => .complain .textBroken
  | .decimal (.finite d) => if decimalIsIntegral d then .ok d.truncate else .complain .integerWithFraction
  | .decimal _ => .complain .notFinite
  | _ => .complain .notAnInteger

/-- An integer between two limits. -/
def boundedInteger (least : Int) (most : Option Int) : Reader Int := fun v => (integer v).andThen fun n =>
  match most with
  | some m => if m < n then .complain (.above m) else if n < least then .complain (.below least) else .ok n
  | none => if n < least then .complain (.below least) else .ok n

/-- A binary64 number. An integer too large for the format is none. -/
def number : Reader Binary64
  | .float x => .ok x
  | .int n =>
    let x := Binary64.ofInt n
    if x.isFinite then .ok x else .complain .notANumber
  | .bool b => .ok (Binary64.ofInt (if b then 1 else 0))
  | .text s =>
    match LooseText.binary64? s with
    | some x => .ok x
    | none => .complain .numberUnreadable
  | .brokenText _ => .complain .textBroken
  | .decimal d => match d.toBinary64? with
    | some x => .ok x
    | none => .complain .notANumber
  | _ => .complain .notANumber

/-- A number between two limits. What is no number lies beyond the upper one. -/
def boundedNumber (least most : Int) : Reader Binary64 := fun v => (number v).andThen fun x =>
  if !x.le (.ofInt most) then .complain (.above most)
  else if !(Binary64.ofInt least).le x then .complain (.below least)
  else .ok x

/-- Yes for one and no for zero. -/
def booleanOfInteger (n : Int) : Except Complaint Bool :=
  if n = 0 then .ok false
  else if n = 1 then .ok true
  else if isInt64 n then .error .booleanUnreadable
  else .error .notABoolean

/-- Yes for one and no for zero; a number that is no integer of 64 bits is no boolean at all. -/
def booleanOfBinary64 (x : Binary64) : Checked Bool :=
  match integerOfBinary64 x with
  | .ok n => ofExcept (booleanOfInteger n)
  | .error _ => .complain .notABoolean

/-- A boolean. -/
def boolean : Reader Bool
  | .bool b => .ok b
  | .int n => ofExcept (booleanOfInteger n)
  | .float x => booleanOfBinary64 x
  | .decimal d => match d.toBinary64? with
    | some x => booleanOfBinary64 x
    | none => .complain .notABoolean
  | .brokenText _ => .complain .textBroken
  | .text s =>
    match LooseText.boolean? s with
    | some b => .ok b
    | none => .complain .booleanUnreadable
  | _ => .complain .notABoolean

/-- An identifier. -/
def uuid : Reader Uuid
  | .uuid u => .ok u
  | .text s =>
    match Uuid.ofText s with
    | .ok u => .ok u
    | .error fault => .complain (.identifierUnreadable fault)
  | .brokenText _ => .complain .textBroken
  | _ => .complain .notAnIdentifier

/-- A member of an enumeration, by its text. -/
def member {α : Type} (texts : List String) (ofText? : String → Option α) : Reader α
  | .text s =>
    match ofText? s with
    | some a => .ok a
    | none => .complain (.notAMember texts)
  | .brokenText _ => .complain .textBroken
  | _ => .complain (.notAMember texts)

/-- One of a few texts. -/
def literal (texts : List String) : Reader String
  | .text s => if texts.contains s then .ok s else .complain (.notALiteral texts)
  | .brokenText _ => .complain .textBroken
  | _ => .complain (.notALiteral texts)

/-- What the reading of a timestamp says, as a check. -/
def stampOfReading : Except CalendarFault Stamp → Checked Stamp
  | .ok s => .ok s
  | .error fault => .complain (.stampOutOfRange fault)

/-- The stamp of a text: a stamp, or a day alone, which is its start. The complaint is that of the day. -/
def stampOfText (s : String) : Checked Stamp :=
  match Stamp.ofText s with
  | .ok stamp => .ok stamp
  | .error (.yearZero midnight) => .complain (.stampOutOfRange (.yearZero midnight))
  | .error fault =>
    match DayReading.ofText s with
    | .day d => .ok (.ofDate d)
    | .notMidnight => .complain (.stampUnreadable fault)
    | .refused (.yearZero midnight) => .complain (.stampOutOfRange (.yearZero midnight))
    | .refused fault => .complain (.stampUnreadable fault)

/-- Whether an integer rounds to a finite binary64 number. -/
def hasBinary64 (n : Int) : Bool := (Binary64.ofInt n).isFinite

/-- A stamp. -/
def stamp : Reader Stamp
  | .stamp s => .ok s
  | .date d => .ok (.ofDate d)
  | .text s => stampOfText s
  | .int n => if hasBinary64 n then stampOfReading (Stamp.ofTimestamp n) else .complain .notAStamp
  | .float x => stampOfReading (Stamp.ofNumericTimestamp x)
  | .decimal d => match d.toBinary64? with
    | some x => stampOfReading (Stamp.ofNumericTimestamp x)
    | none => .complain .notAStamp
  | .brokenText _ => .complain .textBroken
  | _ => .complain .notAStamp

/-- The date of a stamp at the start of its day. -/
def dateOfStamp (s : Stamp) : Checked Date := if s.isMidnight then .ok s.wall.date else .complain .dateWithTime

/-- What a day or a stamp that cannot be read says about a date: in the year zero there is a day, but it is none. -/
def dateOfFault {α : Type} : CalendarFault → Checked α
  | .yearZero midnight => .complain (if midnight then .dateYearZero else .dateWithTime)
  | fault => .complain (.dateUnreadable fault)

/-- What the reading of a stamp says about a date. -/
def dateOfReading : Except CalendarFault Stamp → Checked Date
  | .ok s => dateOfStamp s
  | .error fault => dateOfFault fault

/-- The date of a text: a day, or a stamp at the start of its day. The complaint is that of the stamp. -/
def dateOfText (s : String) : Checked Date :=
  match DayReading.ofText s with
  | .day d => .ok d
  | .refused (.yearZero midnight) => dateOfFault (.yearZero midnight)
  | _ => dateOfReading (Stamp.ofText s)

/-- A date. -/
def date : Reader Date
  | .date d => .ok d
  | .stamp s => dateOfStamp s
  | .text s => dateOfText s
  | .int n => if hasBinary64 n then dateOfReading (Stamp.ofTimestamp n) else .complain .notADate
  | .float x => dateOfReading (Stamp.ofNumericTimestamp x)
  | .decimal d => match d.toBinary64? with
    | some x => dateOfReading (Stamp.ofNumericTimestamp x)
    | none => .complain .notADate
  | .brokenText _ => .complain .textBroken
  | _ => .complain .notADate

end Reader

end RaceAlbum
