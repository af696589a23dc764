import RaceAlbum.Bytes
import RaceAlbum.Json.Reader

/-!
# JSON in bytes

JSON may arrive in UTF-8, or in UTF-16 or UTF-32 in either order of bytes. A JSON text begins with two ASCII
characters, so that the zeros among its first four bytes tell which of these it is. A mark of byte order in front of a
text in UTF-8 is dropped. Positions in what is no JSON count characters, whatever their width.
-/

namespace RaceAlbum

/-- A way to write characters as bytes: in one, two or four bytes at least. -/
inductive Encoding where
  | narrow
  | pairs (order : ByteOrder)
  | quads (order : ByteOrder)
deriving DecidableEq

namespace Encoding

/-- The encoding of a JSON text, by the zeros among its first bytes. -/
def ofFirst : Bytes → Encoding
  | [a, b] => if a = 0 then .pairs .big else if b = 0 then .pairs .little else .narrow
  | a :: b :: c :: d :: _ =>
    if a = 0 then if b = 0 then .quads .big else .pairs .big
    else if b = 0 then if c = 0 ∧ d = 0 then .quads .little else .pairs .little
    else .narrow
  | _ => .narrow

/-- The mark of byte order in UTF-8. -/
def narrowMark : Bytes := [0xEF, 0xBB, 0xBF]

/-- The characters of 16-bit code units; `high` is a first half of a pair that waits for the second. -/
def ofUnits (high : Option Nat) : List Nat → Option (List Char)
  | [] => if high.isSome then none else some []
  | n :: rest =>
    let alone := (high.map JsonReader.pointChar).toList
    match high, JsonReader.isLowSurrogate n with
    | some h, true => (ofUnits none rest).map (Char.ofNat (0x10000 + (h - 0xD800) * 0x400 + (n - 0xDC00)) :: ·)
    | _, _ =>
      if JsonReader.isHighSurrogate n then (ofUnits (some n) rest).map (alone ++ ·)
      else (ofUnits none rest).map fun cs => alone ++ JsonReader.pointChar n :: cs

/-- The numbers of a width of bytes each, if they come out even. -/
def numbers? (order : ByteOrder) (width : Nat) : (fuel : Nat) → Bytes → Option (List Nat)
  | _, [] => some []
  | 0, _ => none
  | fuel + 1, bs => do
    let (front, rest) ← bs.splitExactly? width
    let ns ← numbers? order width fuel rest
    return front.number order :: ns

/-- The characters that bytes stand for, if all of them do. -/
def decode? (e : Encoding) (bs : Bytes) : Option (List Char) :=
  match e with
  | .narrow =>
    let bs := if narrowMark.isPrefixOf bs then bs.drop narrowMark.length else bs
    (String.fromUTF8? ⟨bs.toArray⟩).map String.toList
  | .pairs order => (numbers? order 2 bs.length bs).bind (ofUnits none)
  | .quads order => (numbers? order 4 bs.length bs).bind fun ns =>
      if ns.all (· < 0x110000) then some (ns.map JsonReader.pointChar) else none

end Encoding

/-- Reads bytes as a JSON value; there is no fault to tell where they are no text. -/
def Value.ofJsonBytes (bs : Bytes) : Except (Option JsonFault) Value :=
  match (Encoding.ofFirst bs).decode? bs with
  | some cs => match JsonReader.whole cs with
    | .ok v => .ok v
    | .error fault => .error (some fault)
  | none => .error none

end RaceAlbum
