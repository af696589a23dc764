import RaceAlbum.Picture.Checksum
import RaceAlbum.Picture.Chunk

/-!
# Pictures of chunks

A picture of chunks is known from the chunks before its points. Where they hold no block of tags, the points are
unpacked and the chunks after them are read too; these may have faults that are reported.
-/

namespace RaceAlbum.Picture

/-- Reads the chunks before the points, whose checksums must confirm them: what they tell, and the points, if any. -/
def chunksBefore? : (fuel : Nat) → ChunkNotes → Bytes → Option (ChunkNotes × Option (Nat × Bytes))
  | 0, _, _ => none
  | fuel + 1, n, bs =>
    match ChunkHead.read bs with
    | .error _ => none
    | .ok (h, rest) =>
      match chunkStep n h rest with
      | .error _ => none
      | .ok .last => some (n, none)
      | .ok (.points n length rest) => some (n, some (length, rest))
      | .ok (.told n content rest) =>
        match Bytes.splitExactly? 4 rest with
        | none => none
        | some (sum, rest) =>
          if checksum (h.name ++ content) = Bytes.bigNumber sum then chunksBefore? fuel n rest else none

/-! ## Rows of points -/

/-- Rows of points: their number of bytes, and how many there are. -/
abbrev RowGroup := Nat × Nat

/-- The passes over an interlaced picture: the first row and the step from row to row, the columns to be added and the
step from column to column. -/
def passes : List (Nat × Nat × Nat × Nat) :=
  [(0, 8, 7, 8), (0, 8, 3, 8), (4, 8, 3, 4), (0, 4, 1, 4), (2, 4, 1, 2), (0, 2, 0, 2), (1, 2, 0, 1)]

/-- The bytes of a row of points. -/
def rowSize (bits columns : Nat) : Nat := (columns * bits + 7) / 8

/-- The rows of a picture whose points have so many bits. -/
def rowGroups (interlaced : Bool) (bits width height : Nat) : List RowGroup :=
  if interlaced then
    (passes.map fun (row, rowStep, added, columnStep) =>
      (rowSize bits ((width + added) / columnStep), (height + rowStep - 1 - row) / rowStep)).filter fun (size, _) =>
        size != 0
  else [(rowSize bits width, height)]

/-- The bytes of rows with the byte in front of each of them that names its filter. -/
def rowsSize (groups : List RowGroup) : Nat := groups.foldl (fun total (size, count) => total + count * (size + 1)) 0

/-- The filters of rows. -/
def filterMax : UInt8 := 4

/-- How far rows are there: all of them; some, up to the end of a row or not; or a row has no known filter. -/
inductive RowsRead where
  | all
  | some (atEnd : Bool)
  | refused

/-- Reads rows; `begun` tells whether there was one before. -/
def readRows : (fuel : Nat) → (begun : Bool) → List RowGroup → Bytes → RowsRead
  | 0, _, _, _ => .refused
  | _ + 1, _, [], _ => .all
  | fuel + 1, begun, (_, 0) :: groups, data => readRows fuel begun groups data
  | fuel + 1, begun, (size, count + 1) :: groups, data =>
    match Bytes.splitExactly? (size + 1) data with
    | none => .some (begun && data.isEmpty)
    | some (row, rest) =>
      if filterMax < row.headD 0 then .refused else readRows fuel true ((size, count) :: groups) rest

/-- Whether packed rows are good, as far as this can be told from so many bytes and some more. Fewer rows than wanted
are good if the end of what was packed comes along with the last of them. -/
def rowsAreGood? (groups : List RowGroup) (packed more : Bytes) : Option Bool :=
  let room := rowsSize groups
  let u := Inflate.unpack room (packed ++ more)
  match u.ending, readRows (u.data.length + groups.length + 1) false groups u.data with
  | .broken, _ | _, .refused => some false
  | _, .all => some true
  | .finished, .some true => if (Inflate.unpack room packed).data.length < u.data.length then some true else none
  | _, .some _ => none

/-- What reading the points came to: whether they are good, what was told meanwhile, and what follows. -/
structure PointsRead where
  good : Bool
  notes : ChunkNotes
  rest : Bytes

/-- The name of chunks with the points of a part, after its number. -/
def partTitle : String := "fdAT"

/-- The names of chunks that may hold more points. -/
def pointsTitles : List String := ["IDAT", "DDAT", partTitle]

/-- Reads points chunk by chunk until they are good or bad: `packed` are those before, and so many bytes of the chunk
remain. -/
def readPoints (groups : List RowGroup) :
    (fuel : Nat) → ChunkNotes → (packed : Bytes) → (length : Nat) → Bytes → Except ChunkFault PointsRead
  | 0, _, _, _, _ => .error .unreadable
  | fuel + 1, n, packed, length, bs =>
    let more := bs.take length
    let rest := bs.drop length
    match if more.isEmpty then none else rowsAreGood? groups packed more with
    | some good => .ok ⟨good, n, rest⟩
    | none => do
      let (h, rest) ← ChunkHead.read (rest.drop 4)
      let packed := packed ++ more
      if !pointsTitles.contains h.title then .error .unreadable
      else if h.title != partTitle then readPoints groups fuel n packed h.length rest
      else match ← chunkStep n h rest with
        | .points n length rest => readPoints groups fuel n packed length rest
        | _ => .error .unreadable

/-- Reads the chunks after the points, without their checksums, up to the last one, to one that cannot be read, or to
the next part of a picture that moves. -/
def chunksAfter (moves : Bool) : (fuel : Nat) → ChunkNotes → Bytes → Except ChunkFault ChunkNotes
  | 0, n, _ => .ok n
  | fuel + 1, n, bs =>
    match ChunkHead.read (bs.drop 4) with
    | .error _ => .ok n
    | .ok (h, rest) =>
      if moves && h.title == "fcTL" then .ok n
      else do
        match ← chunkStep n h rest with
        | .last => return n
        | .told n _ rest => chunksAfter moves fuel n rest
        | .points n length rest =>
          match Bytes.splitExactly? length rest with
          | some (_, rest) => chunksAfter moves fuel n rest
          | none => .error .unreadable

/-- Reads the points and the chunks after them. -/
def loaded (n : ChunkNotes) (form : Nat × Nat) (length : Nat) (bs : Bytes) : Except ChunkFault ChunkNotes :=
  let area := n.area.getD ⟨0, 0, n.width, n.height⟩
  if area.width = 0 ∨ area.height = 0 ∨ n.width < area.left + area.width ∨ n.height < area.top + area.height then
    .error .unreadable
  else do
    let bits := form.1 * (List.lookup form.2 layersOfKind).getD 0
    let read ← readPoints (rowGroups n.interlaced bits area.width area.height) (bs.length + 1) n [] length bs
    let notes ← chunksAfter n.moves bs.length read.notes read.rest
    if read.good then .ok notes else .error .unreadable

/-! ## Tags -/

/-- The value of a hexadecimal digit. -/
def hexValue? (c : Char) : Option Nat :=
  if '0' ≤ c ∧ c ≤ '9' then some (c.toNat - 48)
  else if 'a' ≤ c ∧ c ≤ 'f' then some (c.toNat - 87)
  else if 'A' ≤ c ∧ c ≤ 'F' then some (c.toNat - 55)
  else none

/-- The blanks that may stand between the bytes of a text in hexadecimal. -/
def isHexBlank (c : Char) : Bool := c == ' ' || ('\t' ≤ c && c ≤ '\r')

/-- The bytes of a text in hexadecimal. -/
def ofHex? : List Char → Option Bytes
  | [] => some []
  | [c] => if isHexBlank c then some [] else none
  | c :: d :: rest =>
    if isHexBlank c then ofHex? (d :: rest)
    else do
      let high ← hexValue? c
      let low ← hexValue? d
      let bs ← ofHex? rest
      return UInt8.ofNat (16 * high + low) :: bs

/-- The text after a number of lines. -/
def afterLines : Nat → List Char → List Char
  | 0, cs => cs
  | count + 1, cs => afterLines count ((cs.dropWhile (· != '\n')).drop 1)

/-- The lines in front of a block of tags in hexadecimal. -/
def profileLines : Nat := 3

/-- The block of tags that the notes hold, in its note, or in hexadecimal after the lines of a text. -/
def blockOfNotes (n : ChunkNotes) : Except ChunkFault Bytes :=
  match n.note? ChunkNotes.blockName, n.note? ChunkNotes.profileName with
  | some (.bytes bs), _ => .ok bs
  | some (.text []), _ => .ok []
  | some (.text _), _ => .error (.fault .blockIsText)
  | none, some (.text cs) =>
    match ofHex? ((afterLines profileLines cs).filter (· != '\n')) with
    | some bs => .ok bs
    | none => .error .unreadable
  | none, _ => .ok []

/-- The tag with the orientation, which is looked for in a sheet where it is not given. -/
def orientationTag : Nat := 0x112

/-- Whether the sheet about the picture is a text, in which nothing can be looked for. -/
def sheetIsText (n : ChunkNotes) : Bool :=
  match n.note? ChunkNotes.sheetTextName, n.note? ChunkNotes.sheetName with
  | some (.text (_ :: _)), _ => false
  | _, some (.text (_ :: _)) => true
  | _, _ => false

/-- Where the tags stand that the notes hold. -/
def sourceOfNotes (n : ChunkNotes) : Except ChunkFault TagSource := do
  let source := TagSource.block false (← blockOfNotes n)
  let block ← source.tags?.mapError .fault
  let oriented := block.any fun b => (TagBlock.tag? (b.directory b.first) orientationTag).isSome
  if sheetIsText n && !oriented then .error (.fault .sheetIsText) else .ok source

/-- The eight bytes with which a picture of chunks begins. -/
def chunksMark : Bytes := [0x89, 0x50, 0x4E, 0x47, 0x0D, 0x0A, 0x1A, 0x0A]

/-- What can be said where a chunk is of no use: nothing, unless there is a fault. -/
def heard {α : Type} : Except ChunkFault α → Except PictureFault (Option α)
  | .ok a => .ok (some a)
  | .error .unreadable => .ok none
  | .error (.fault f) => .error f

/-- Where the tags about a picture of chunks stand. -/
def ofChunks? (bs : Bytes) : Except PictureFault (Option TagSource) :=
  match chunksBefore? bs.length .empty (bs.drop chunksMark.length) with
  | none => .ok none
  | some (n, points) =>
    match n.form, points with
    | none, _ => .ok none
    | some form, points =>
      if !isSize n.width n.height then .ok none
      else if (n.note? ChunkNotes.blockName).isSome then heard (sourceOfNotes n)
      else match points with
        | none => .ok none
        | some (length, rest) => heard (do sourceOfNotes (← loaded n form length rest))

end RaceAlbum.Picture
