import RaceAlbum.Json.Reader
import RaceAlbum.Json.Writer

/-!
# Values inside a sentence

How a value is spelled where a message for people mentions it: a text as it is, or between quotes where a value of any
kind may stand, and the other values by their words. There a value that is more than JSON is spelled with what it is
made from.
-/

namespace RaceAlbum

/-- What a value is made from: a name, and parts between brackets. -/
def spellMade (name : String) (parts : List String) : String := name ++ "(" ++ String.intercalate ", " parts ++ ")"

/-- A date by its parts. -/
def Date.spelled (d : Date) : String :=
  spellMade "datetime.date" [natText d.year, natText d.month, natText d.day]

/-- An offset by its seconds; one to the west is a day back and the rest of it forward again. -/
def Offset.spelled (o : Offset) : String :=
  if o.seconds = 0 then "datetime.timezone.utc"
  else
    let parts := if o.seconds < 0 then ["days=-1", "seconds=" ++ intText (86400 + o.seconds)]
      else ["seconds=" ++ intText o.seconds]
    spellMade "datetime.timezone" [spellMade "datetime.timedelta" parts]

/-- A stamp by its parts; seconds and microseconds that are zero are left out at the end. -/
def Stamp.spelled (s : Stamp) : String :=
  let time := s.wall.time
  let fine := if time.micro ≠ 0 then [natText time.second, natText time.micro]
    else if time.second ≠ 0 then [natText time.second] else []
  let date := s.wall.date
  spellMade "datetime.datetime" ([natText date.year, natText date.month, natText date.day, natText time.hour,
    natText time.minute] ++ fine ++ (s.offset.map fun o => "tzinfo=" ++ o.spelled).toList)

namespace Value

/-- Code points between quotes, a half of a pair of code units by its number. -/
def spellBroken (points : List Nat) : String :=
  "'" ++ String.ofList (points.flatMap fun n =>
    if JsonReader.isSurrogate n then '\\' :: 'u' :: hexDigits 4 n else escapeQuoted '\'' (Char.ofNat n)) ++ "'"

mutual

/-- A value between the brackets of a list or a dictionary: a text is quoted. -/
def spellInside : Value → String
  | null => "None"
  | bool b => if b then "True" else "False"
  | int n => intText n
  | float x => x.text
  | text s => quoted s
  | brokenText points => spellBroken points
  | list vs => "[" ++ String.intercalate ", " (spellItems vs) ++ "]"
  | object fields => "\x7b" ++ String.intercalate ", " (spellMembers fields) ++ "\x7d"
  | uuid u => spellMade "UUID" ["'" ++ u.text ++ "'"]
  | date d => d.spelled
  | stamp s => s.spelled
  | decimal d => spellMade "Decimal" ["'" ++ d.text ++ "'"]

/-- The items of a list. -/
def spellItems : List Value → List String
  | [] => []
  | v :: vs => spellInside v :: spellItems vs

/-- The members of a dictionary. -/
def spellMembers : List (String × Value) → List String
  | [] => []
  | (n, v) :: fields => (quoted n ++ ": " ++ spellInside v) :: spellMembers fields

end

/-- A value as a sentence mentions it. -/
def spell : Value → String
  | text s => s
  | uuid u => u.text
  | date d => d.text
  | stamp s => s.text
  | decimal d => d.text
  | v => spellInside v

/-- The name of the kind of a value. -/
def kindName : Value → String
  | null => "NoneType"
  | bool _ => "bool"
  | int _ => "int"
  | float _ => "float"
  | text _ => "str"
  | brokenText _ => "str"
  | list _ => "list"
  | object _ => "dict"
  | uuid _ => "UUID"
  | date _ => "datetime.date"
  | stamp _ => "datetime.datetime"
  | decimal _ => "decimal.Decimal"

end Value

end RaceAlbum
