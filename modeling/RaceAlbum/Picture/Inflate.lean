import RaceAlbum.Bytes
import RaceAlbum.Number.Power

/-!
# Packed bytes

Bytes are packed as a head of two bytes, blocks of bits, and a checksum of what was packed. A block holds bytes as they
are, or symbols of a prefix code: bytes, the end of the block, and spans that repeat bytes from before. Unpacking goes
as far as it can: it tells the bytes that it found and why it ended.
-/

namespace RaceAlbum.Inflate

/-- Bits in the order in which they are read: those of a byte from its lowest to its highest. -/
abbrev Bits := List Bool

/-- The bits of bytes. -/
def bitsOf (bs : Bytes) : Bits := bs.flatMap fun b => (List.range 8).map fun i => b.toNat.testBit i

/-- Why unpacking ended: at the end of what was packed, because no more bytes were wanted, because the bits ran out, or
because they have no meaning. -/
inductive Ending where
  | finished
  | full
  | starved
  | broken
deriving DecidableEq

/-- A number of a width of bits, the lowest bit first. -/
def number (width : Nat) (bits : Bits) : Except Ending (Nat × Bits) :=
  let front := bits.take width
  if front.length = width then .ok (front.foldr (fun b n => b.toNat + 2 * n) 0, bits.drop width) else .error .starved

/-- Several numbers of a width of bits. -/
def numbers (width : Nat) : (count : Nat) → Bits → Except Ending (List Nat × Bits)
  | 0, bits => .ok ([], bits)
  | count + 1, bits => do
    let (n, bits) ← number width bits
    let (ns, bits) ← numbers width count bits
    return (n :: ns, bits)

/-- Drops the bits that are left of a byte; all bits together are those of whole bytes. -/
def aligned (bits : Bits) : Bits := bits.drop (bits.length % 8)

/-! ## Prefix codes -/

/-- A prefix code: for each length of codes from one on, the symbols with codes of this length in the order of their
codes. -/
abbrev PrefixCode := List (List Nat)

/-- The longest code. -/
def codeLengthMax : Nat := 15

/-- The prefix code in which every symbol has a code of its length, and none where the length is zero. -/
def PrefixCode.ofLengths (lengths : List Nat) : PrefixCode :=
  (List.range codeLengthMax).map fun i => (lengths.zipIdx.filter fun (length, _) => length == i + 1).map (·.2)

/-- The number of codes that remain unused, of so many that are free at the length before; none where symbols have no
code left. -/
def PrefixCode.unused? : PrefixCode → (free : Nat) → Option Nat
  | [], free => some free
  | symbols :: rest, free => if 2 * free < symbols.length then none else unused? rest (2 * free - symbols.length)

/-- Whether every sequence of bits begins with a code. -/
def PrefixCode.isComplete (code : PrefixCode) : Bool := PrefixCode.unused? code 1 == some 0

/-- Whether a code may be used: it is complete, or it has at most one symbol, of one bit. -/
def PrefixCode.isUsable (code : PrefixCode) : Bool :=
  PrefixCode.isComplete code || ((PrefixCode.unused? code 1).isSome && (code.drop 1).all List.isEmpty)

/-- Reads a symbol: `code` is what was read so far and `first` the first code of the length, each doubled. -/
def PrefixCode.read : PrefixCode → (code first : Nat) → Bits → Except Ending (Nat × Bits)
  | [], _, _, _ => .error .broken
  | _ :: _, _, _, [] => .error .starved
  | symbols :: rest, code, first, b :: bits =>
    let code := code + b.toNat
    match symbols[code - first]? with
    | some s => .ok (s, bits)
    | none => PrefixCode.read rest (2 * code) (2 * (first + symbols.length)) bits

/-- Reads a symbol. -/
def symbol (code : PrefixCode) (bits : Bits) : Except Ending (Nat × Bits) := PrefixCode.read code 0 0 bits

/-- The code of bytes and spans of a block that brings none. -/
def fixedLiterals : PrefixCode := .ofLengths
  (List.replicate 144 8 ++ List.replicate 112 9 ++ List.replicate 24 7 ++ List.replicate 8 8)

/-- The code of distances of a block that brings none. -/
def fixedDistances : PrefixCode := .ofLengths (List.replicate 32 5)

/-- The order in which the lengths of codes for lengths stand. -/
def lengthOrder : List Nat := [16, 17, 18, 0, 8, 7, 9, 6, 10, 5, 11, 4, 12, 3, 13, 2, 14, 1, 15]

/-- Reads the lengths of codes: `wanted` more, after those that were read, the last one first. -/
def lengths (code : PrefixCode) : (fuel wanted : Nat) → (before : List Nat) → Bits → Except Ending (List Nat × Bits)
  | _, 0, before, bits => .ok (before.reverse, bits)
  | 0, _ + 1, _, _ => .error .broken
  | fuel + 1, wanted + 1, before, bits => do
    let (s, bits) ← symbol code bits
    let (count, length, bits) ←
      if s < 16 then .ok (1, s, bits)
      else if s = 16 then do
        let (n, bits) ← number 2 bits
        match before with
        | [] => .error .broken
        | last :: _ => .ok (3 + n, last, bits)
      else if s = 17 then do
        let (n, bits) ← number 3 bits
        .ok (3 + n, 0, bits)
      else do
        let (n, bits) ← number 7 bits
        .ok (11 + n, 0, bits)
    if wanted + 1 < count then .error .broken
    else lengths code fuel (wanted + 1 - count) (List.replicate count length ++ before) bits

/-- The symbol for the end of a block. -/
def endOfBlock : Nat := 256

/-- Reads the codes that a block brings: that of bytes and spans, and that of distances. -/
def codes (bits : Bits) : Except Ending (PrefixCode × PrefixCode × Bits) := do
  let (literalCount, bits) ← number 5 bits
  let (distanceCount, bits) ← number 5 bits
  let (lengthCount, bits) ← number 4 bits
  let literalCount := 257 + literalCount
  let distanceCount := 1 + distanceCount
  if 286 < literalCount ∨ 30 < distanceCount then .error .broken
  else do
    let (ns, bits) ← numbers 3 (4 + lengthCount) bits
    let lengthCode := PrefixCode.ofLengths
      ((List.range 19).map fun s => (List.lookup s (lengthOrder.zip ns)).getD 0)
    if !lengthCode.isComplete then .error .broken
    else do
      let wanted := literalCount + distanceCount
      let (all, bits) ← lengths lengthCode wanted wanted [] bits
      let literals := PrefixCode.ofLengths (all.take literalCount)
      let distances := PrefixCode.ofLengths (all.drop literalCount)
      if all.getD endOfBlock 0 != 0 && literals.isUsable && distances.isUsable then .ok (literals, distances, bits)
      else .error .broken

/-! ## Blocks -/

/-- The lengths of spans by their symbols from 257 on: the least length, and the bits that say how much more. -/
def spanLengths : List (Nat × Nat) :=
  [(3, 0), (4, 0), (5, 0), (6, 0), (7, 0), (8, 0), (9, 0), (10, 0), (11, 1), (13, 1), (15, 1), (17, 1), (19, 2),
   (23, 2), (27, 2), (31, 2), (35, 3), (43, 3), (51, 3), (59, 3), (67, 4), (83, 4), (99, 4), (115, 4), (131, 5),
   (163, 5), (195, 5), (227, 5), (258, 0)]

/-- The distances of spans by their symbols: the least distance, and the bits that say how much more. -/
def spanDistances : List (Nat × Nat) :=
  [(1, 0), (2, 0), (3, 0), (4, 0), (5, 1), (7, 1), (9, 2), (13, 2), (17, 3), (25, 3), (33, 4), (49, 4), (65, 5),
   (97, 5), (129, 6), (193, 6), (257, 7), (385, 7), (513, 8), (769, 8), (1025, 9), (1537, 9), (2049, 10), (3073, 10),
   (4097, 11), (6145, 11), (8193, 12), (12289, 12), (16385, 13), (24577, 13)]

/-- Reads a measure of a span: the least one of its symbol and what the bits add. -/
def measure (table : List (Nat × Nat)) (s : Nat) (bits : Bits) : Except Ending (Nat × Bits) :=
  match table[s]? with
  | none => .error .broken
  | some (least, width) => do
    let (more, bits) ← number width bits
    return (least + more, bits)

/-- Reads the rest of a span: its length and its distance. -/
def span (distances : PrefixCode) (s : Nat) (bits : Bits) : Except Ending (Nat × Nat × Bits) := do
  let (length, bits) ← measure spanLengths (s - 257) bits
  let (d, bits) ← symbol distances bits
  let (distance, bits) ← measure spanDistances d bits
  return (length, distance, bits)

/-- Unpacked bytes, and the bits that are left, or why unpacking ended. -/
structure Progress where
  data : Array UInt8
  rest : Except Ending Bits

/-- Repeats bytes from a distance before, while there is room. -/
def repeated (room distance : Nat) : (count : Nat) → Array UInt8 → Array UInt8
  | 0, data => data
  | count + 1, data =>
    if data.size < room then repeated room distance count (data.push (data.getD (data.size - distance) 0)) else data

/-- Reads the symbols of a block. -/
def symbols (room : Nat) (literals distances : PrefixCode) : (fuel : Nat) → Array UInt8 → Bits → Progress
  | 0, data, _ => ⟨data, .error .starved⟩
  | fuel + 1, data, bits =>
    match symbol literals bits with
    | .error e => ⟨data, .error e⟩
    | .ok (s, bits) =>
      if s < endOfBlock then
        if data.size < room then symbols room literals distances fuel (data.push (UInt8.ofNat s)) bits
        else ⟨data, .error .full⟩
      else if s = endOfBlock then ⟨data, .ok bits⟩
      else match span distances s bits with
        | .error e => ⟨data, .error e⟩
        | .ok (length, distance, bits) =>
          if room ≤ data.size then ⟨data, .error .full⟩
          else if data.size < distance then ⟨data, .error .broken⟩
          else if room < data.size + length then ⟨repeated room distance length data, .error .full⟩
          else symbols room literals distances fuel (repeated room distance length data) bits

/-- Takes bytes as they are. -/
def plain (room : Nat) : (count : Nat) → Array UInt8 → Bits → Progress
  | 0, data, bits => ⟨data, .ok bits⟩
  | count + 1, data, bits =>
    if room ≤ data.size then ⟨data, .error .full⟩
    else match number 8 bits with
      | .error e => ⟨data, .error e⟩
      | .ok (b, bits) => plain room count (data.push (UInt8.ofNat b)) bits

/-- Reads a block of bytes as they are. -/
def plainBlock (room : Nat) (data : Array UInt8) (bits : Bits) : Progress :=
  match numbers 16 2 (aligned bits) with
  | .error e => ⟨data, .error e⟩
  | .ok (ns, bits) =>
    let count := ns.headD 0
    if count + (ns.drop 1).headD 0 = 0xFFFF then plain room count data bits else ⟨data, .error .broken⟩

/-- Reads a block of a kind. -/
def block (room kind : Nat) (data : Array UInt8) (bits : Bits) : Progress :=
  if kind = 0 then plainBlock room data bits
  else if kind = 1 then symbols room fixedLiterals fixedDistances (bits.length + 1) data bits
  else if kind = 2 then
    match codes bits with
    | .error e => ⟨data, .error e⟩
    | .ok (literals, distances, bits) => symbols room literals distances (bits.length + 1) data bits
  else ⟨data, .error .broken⟩

/-- Reads blocks up to the last one. -/
def blocks (room : Nat) : (fuel : Nat) → Array UInt8 → Bits → Progress
  | 0, data, _ => ⟨data, .error .starved⟩
  | fuel + 1, data, bits =>
    match numbers 1 3 bits with
    | .error e => ⟨data, .error e⟩
    | .ok (head, bits) =>
      let p := block room (head.getD 1 0 + 2 * head.getD 2 0) data bits
      match p.rest with
      | .error _ => p
      | .ok bits => if head.headD 0 = 1 then p else blocks room fuel p.data bits

/-! ## Head and checksum -/

/-- The least number above all sums of a checksum. -/
def sumModulus : Nat := 65521

/-- The checksum of what was packed: the sum of the bytes, and the sum of these sums. -/
def checksum (data : Array UInt8) : Nat :=
  let (low, high) := data.foldl (fun (low, high) b =>
    let low := (low + b.toNat) % sumModulus
    (low, (high + low) % sumModulus)) (1, 0)
  high * twoPow 16 + low

/-- What unpacking found, and why it ended. -/
structure Unpacked where
  data : Bytes
  ending : Ending

/-- Whether two bytes are the head of packed bytes: they name the form of the blocks, ask for no bytes from elsewhere,
and are divisible. -/
def isHead (a b : Nat) : Bool := a % 16 == 8 && a / 16 ≤ 7 && b / 32 % 2 == 0 && (256 * a + b) % 31 == 0

/-- Unpacks bytes, as many as there is room for. -/
def unpack (room : Nat) (bs : Bytes) : Unpacked :=
  match bs with
  | a :: b :: rest =>
    if !isHead a.toNat b.toNat then ⟨[], .broken⟩
    else
      let bits := bitsOf rest
      let p := blocks room (bits.length + 1) #[] bits
      let ending := match p.rest with
        | .error e => e
        | .ok bits => match numbers 8 4 (aligned bits) with
          | .error e => e
          | .ok (sum, _) =>
            if Bytes.bigNumber (sum.map UInt8.ofNat) = checksum p.data then .finished else .broken
      ⟨p.data.toList, ending⟩
  | _ => ⟨[], .starved⟩

end RaceAlbum.Inflate
