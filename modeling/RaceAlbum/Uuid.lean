import RaceAlbum.Bytes
import RaceAlbum.Number.Digits
import RaceAlbum.Text.Quoted

/-!
# Identifiers of 128 bits

Events, photos and detections are known by identifiers of 128 bits. They are written as 32 hexadecimal digits in five
groups with hyphens between them, and read from that form, from the digits alone, from braces around the groups, or
after the words that introduce such an identifier as a name.
-/

namespace RaceAlbum

/-- An identifier of 128 bits. -/
structure Uuid where
  value : Nat
  lt : value < twoPow 128
deriving DecidableEq

/-- Why a text is no identifier. Positions count the characters of the whole text from zero, groups from zero. -/
inductive UuidFault where
  | badCharacter (c : Char) (position : Nat)
  | badLength (length : Nat)
  | badGroupCount (count : Nat)
  | badGroupLength (group expected found : Nat)
deriving DecidableEq

namespace UuidFault

/-- The cause in words. -/
def text : UuidFault → String
  | badCharacter c i => "invalid character: found `" ++ String.ofList [c] ++ "` at " ++ natText i
  | badLength n => "invalid length: found " ++ natText n
  | badGroupCount n => "invalid group count: expected 5, found " ++ natText n
  | badGroupLength g e f =>
    "invalid group length in group " ++ natText g ++ ": expected " ++ natText e ++ ", found " ++ natText f

end UuidFault

namespace Uuid

/-- The identifier of a number, modulo `2 ^ 128`. -/
def ofNat (n : Nat) : Uuid := ⟨n % twoPow 128, Nat.mod_lt _ (by decide)⟩

/-- The lengths of the five groups. -/
def groupLengths : List Nat := [8, 4, 4, 4, 12]

/-- The 32 hexadecimal digits. -/
def digits (u : Uuid) : List Char := hexDigits 32 u.value

/-- The digits in five groups with hyphens between them. -/
def chars (u : Uuid) : List Char :=
  let ds := u.digits
  ds.take 8 ++ '-' :: ((ds.drop 8).take 4 ++ '-' :: ((ds.drop 12).take 4 ++
    '-' :: ((ds.drop 16).take 4 ++ '-' :: ds.drop 20)))

/-- The digits in five groups with hyphens between them, as text. -/
def text (u : Uuid) : String := String.ofList u.chars

/-- The value of a hexadecimal digit of either case. -/
def hexValue? (c : Char) : Option Nat :=
  if '0' ≤ c ∧ c ≤ '9' then some (c.toNat - 48)
  else if 'a' ≤ c ∧ c ≤ 'f' then some (c.toNat - 87)
  else if 'A' ≤ c ∧ c ≤ 'F' then some (c.toNat - 55)
  else none

/-- The value of a run of hexadecimal digits; what is no digit counts as zero. -/
def ofHexDigits (cs : List Char) : Nat := cs.foldl (fun n c => n * 16 + (hexValue? c).getD 0) 0

/-- Splits a text at its hyphens. -/
def splitHyphens (cs : List Char) : List (List Char) := cs.splitOn '-'

/-- Reads the 32 digits of an identifier, as they are or in groups. -/
def ofPlain? (cs : List Char) : Option Uuid :=
  let groups := splitHyphens cs
  let ds := groups.flatten
  if ds.all (fun c => (hexValue? c).isSome) && ds.length == 32 &&
      (groups.length == 1 || groups.map List.length == groupLengths) then
    some (ofNat (ofHexDigits ds))
  else none

/-- The words in front of an identifier that stands as a name. -/
def nameMark : List Char := "urn:uuid:".toList

/-- What surrounds the digits of an identifier: the text between, the number of characters before it, and whether
the digits may stand without groups. A text that is as long as the digits or the groups alone has nothing around it. -/
def unwrap (cs : List Char) : List Char × Nat × Bool :=
  if utf8Length cs = 32 then (cs, 0, true)
  else if utf8Length cs = 36 then (cs, 0, false)
  else if cs.head? = some '{' ∧ cs.getLast? = some '}' ∧ 2 ≤ cs.length then ((cs.drop 1).dropLast, 1, false)
  else if cs.take 9 = nameMark then (cs.drop 9, 9, false)
  else (cs, 0, true)

/-- The character that the last eight bits of a character are the number of. -/
def lowCharacter (c : Char) : Char := Char.ofNat (c.toNat % 256)

/-- The first character that is neither a digit nor a hyphen, with its position in bytes. Only the last eight bits of
a character are looked at. -/
def firstBad? (cs : List Char) (position : Nat) : Option (Char × Nat) := match cs with
  | [] => none
  | c :: rest =>
    let low := lowCharacter c
    if low = '-' ∨ (hexValue? low).isSome then firstBad? rest (position + c.utf8Size) else some (c, position)

/-- The length of the longest text that holds an identifier: the words and the groups. -/
def lengthMax : Nat := 45

/-- The first group whose length is wrong, among the groups that are left; the last group is measured from where it
ought to begin to the end of the whole text. -/
def firstBadGroup (total : Nat) (group : Nat) : List Nat → List Nat → UuidFault
  | e :: es, f :: fs =>
    if es.isEmpty then .badGroupLength group e (total - 24)
    else if e = f then firstBadGroup total (group + 1) es fs
    else .badGroupLength group e f
  | _, _ => .badGroupCount group

/-- Why a text that is no identifier is none. -/
def faultOf (cs : List Char) : UuidFault :=
  let (body, before, plain) := unwrap cs
  let total := utf8Length cs
  if lengthMax < total then .badLength total
  else match firstBad? body before with
    | some (c, i) => .badCharacter c i
    | none =>
      let groups := body.splitOnP fun c => lowCharacter c == '-'
      if groups.length = 1 && plain then .badLength total
      else if groups.length ≠ 5 then .badGroupCount groups.length
      else firstBadGroup total 0 groupLengths (groups.map utf8Length)

/-- Reads an identifier from a text. -/
def ofText (s : String) : Except UuidFault Uuid :=
  let cs := s.toList
  let (body, _, plain) := unwrap cs
  match ofPlain? body with
  | some u => if plain || body.length == 36 then .ok u else .error (faultOf cs)
  | none => .error (faultOf cs)

/-- Identifiers are ordered as their numbers, which is the order of their texts. -/
def key (u : Uuid) : Nat := u.value

end Uuid

end RaceAlbum
