import RaceAlbum.Picture.Basic

/-!
# Pictures of tags

The file of a picture may itself be a block of tags, which tell the size of the picture, the form of its points and
where they stand. It is a picture if its points are of a known form.
-/

namespace RaceAlbum.Picture.Tagged

/-- The tag with the number of columns. -/
def widthTag : Nat := 256

/-- The tag with the number of rows. -/
def heightTag : Nat := 257

/-- The tag with the bits of each sample. -/
def bitsTag : Nat := 258

/-- The tag with the packing of the points. -/
def packingTag : Nat := 259

/-- The tag with the kind of colour. -/
def kindTag : Nat := 262

/-- The tag with the order of bits. -/
def fillTag : Nat := 266

/-- The tag with the places of strips. -/
def stripsTag : Nat := 273

/-- The tag with the number of samples of a point. -/
def samplesTag : Nat := 277

/-- The tag with the number of rows of a strip. -/
def stripRowsTag : Nat := 278

/-- The tag with the table of colours. -/
def colorsTag : Nat := 320

/-- The tag with the width of tiles. -/
def tileWidthTag : Nat := 322

/-- The tag with the height of tiles. -/
def tileHeightTag : Nat := 323

/-- The tag with the places of tiles. -/
def tilesTag : Nat := 324

/-- The tag with the meaning of further samples. -/
def extrasTag : Nat := 338

/-- The tag with the form of samples. -/
def samplesFormTag : Nat := 339

/-- A tag that is found in pictures of a form that is not accepted. -/
def foreignTag : Nat := 0xBC01

/-- The packing of points that are not packed. -/
def unpacked : Int := 1

/-- The packing whose points are always of one kind of colour. -/
def oldPhotoPacking : Int := 6

/-- The kind of colour of that packing. -/
def oldPhotoKind : Int := 6

/-- The known packings. -/
def packings : List Int :=
  [1, 2, 3, 4, 5, 6, 7, 8, 32771, 32773, 32809, 32946, 34676, 34677, 34925, 50000, 50001]

/-- The most samples of a point. -/
def samplesMax : Int := 6

/-- The form of points: their kind of colour, the form of their samples, the order of bits, the bits of each sample, and
the meaning of further samples. -/
structure PointForm where
  kind : Int
  samples : List Int
  fill : Int
  bits : List Int
  extras : List Int
deriving DecidableEq

/-- The kind of colour of tables. -/
def tableKind : Int := 3

/-- Whether points of a kind without colours are known in one byte order. -/
def isKnownGray (order : ByteOrder) (f : PointForm) : Bool :=
  match f.samples, f.fill, f.bits, f.extras with
  | [1], 1, [b], [] =>
    b == 1 || b == 2 || b == 4 || b == 8 || (b == 12 && f.kind == 1 && order == .little) ||
      (b == 16 && (f.kind == 1 || order == .little)) || (b == 32 && f.kind == 1 && order == .little)
  | [1], 2, [b], [] => b == 1 || b == 2 || b == 4 || b == 8 || (b == 16 && f.kind == 1 && order == .little)
  | [2], 1, [b], [] => f.kind == 1 && (b == 8 || b == 16 || b == 32)
  | [3], 1, [32], [] => true
  | [1], 1, [8, 8], [0] => f.kind == 1
  | [1], 1, [8, 8], [2] => f.kind == 1
  | _, _, _, _ => false

/-- Whether points of colours are known. -/
def isKnownColored (f : PointForm) : Bool :=
  match f.fill, f.bits, f.extras with
  | 1, [8, 8, 8], [] | 2, [8, 8, 8], [] | 1, [16, 16, 16], [] | 1, [8, 8, 8, 8], [] | 1, [16, 16, 16, 16], [] => true
  | 1, [8, 8, 8, 8], [e] => e == 0 || e == 1 || e == 2 || e == 999
  | 1, [16, 16, 16, 16], [e] => e == 0 || e == 1 || e == 2
  | 1, [8, 8, 8, 8, 8], [e, 0] => e == 0 || e == 1 || e == 2
  | 1, [8, 8, 8, 8, 8, 8], [e, 0, 0] => e == 0 || e == 1 || e == 2
  | _, _, _ => false

/-- Whether points of a table of colours are known. -/
def isKnownTable (f : PointForm) : Bool :=
  match f.fill, f.bits, f.extras with
  | 1, [b], [] | 2, [b], [] => b == 1 || b == 2 || b == 4 || b == 8
  | 1, [8, 8], [e] => e == 0 || e == 2
  | _, _, _ => false

/-- Whether points of inks are known. -/
def isKnownInk (f : PointForm) : Bool :=
  match f.bits, f.extras with
  | [8, 8, 8, 8], [] | [8, 8, 8, 8, 8], [0] | [8, 8, 8, 8, 8, 8], [0, 0] | [16, 16, 16, 16], [] => f.fill == 1
  | _, _ => false

/-- Whether the form of points is known. -/
def isKnown (order : ByteOrder) (f : PointForm) : Bool :=
  if f.kind = 0 ∨ f.kind = 1 then isKnownGray order f
  else if f.samples ≠ [1] then false
  else if f.kind = 2 then isKnownColored f
  else if f.kind = tableKind then isKnownTable f
  else if f.kind = 5 then isKnownInk f
  else if f.kind = oldPhotoKind then f.fill == 1 && f.extras.isEmpty && (f.bits == [8] || f.bits == [8, 8, 8])
  else f.kind = 8 && f.fill == 1 && f.extras.isEmpty && f.bits == [8, 8, 8]

/-- Numbers that are all the same, as one. -/
def merged : List Int → List Int
  | n :: ns => if ns.all (· == n) then [n] else n :: ns
  | [] => []

/-- The bits of the samples of a point: those that are told, without those too many, or the only ones for all. -/
def bitsOfSamples (samples : Nat) (bits : List Int) : List Int :=
  match bits with
  | [b] => if samples = 0 then [] else List.replicate samples b
  | bits => bits.take samples

/-- The whole numbers of a tag, if it is there and holds some. -/
def numbers? (b : TagBlock) (tags : List Tag) (number : Nat) : Option (List Int) :=
  (TagBlock.tag? tags number).bind b.integers?

/-- The whole numbers of a tag, or others if it is not there; none if it holds something else. -/
def numbersOr (b : TagBlock) (tags : List Tag) (number : Nat) (otherwise : List Int) : Option (List Int) :=
  match TagBlock.tag? tags number with
  | some t => b.integers? t
  | none => some otherwise

/-- The first whole number of a tag, or another one if it is not there; none if it holds something else. -/
def numberOr (b : TagBlock) (tags : List Tag) (number : Nat) (otherwise : Int) : Option Int := do
  (← numbersOr b tags number [otherwise]).head?

/-- Whether it is told where the points stand: in strips or in tiles of a size. -/
def pointsArePlaced (b : TagBlock) (tags : List Tag) (height : Int) : Bool :=
  if (TagBlock.tag? tags stripsTag).isSome then (numberOr b tags stripRowsTag height).isSome
  else (TagBlock.tag? tags tilesTag).isSome && (numbers? b tags tileWidthTag).isSome &&
    (numbers? b tags tileHeightTag).isSome

/-- The size of the picture that tags make. -/
def size? (b : TagBlock) (tags : List Tag) : Option (Int × Int) := do
  let packing ← numberOr b tags packingTag unpacked
  let kind ← if packing = oldPhotoPacking then some oldPhotoKind else numberOr b tags kindTag 0
  let fill ← numberOr b tags fillTag 1
  let width ← (← numbers? b tags widthTag).head?
  let height ← (← numbers? b tags heightTag).head?
  let form ← numbersOr b tags samplesFormTag [1]
  let bits ← numbersOr b tags bitsTag [1]
  let extras ← numbersOr b tags extrasTag []
  let samples ← numberOr b tags samplesTag (if packing = oldPhotoPacking then 3 else 1)
  let samples ← if 0 ≤ samples ∧ samples ≤ samplesMax then some samples.toNat else none
  let bits := bitsOfSamples samples bits
  let known := packings.contains packing && (TagBlock.tag? tags foreignTag).isNone && bits.length == samples &&
    isKnown b.order ⟨kind, merged form, fill, bits, extras⟩
  let colored := kind != tableKind || (numbers? b tags colorsTag).isSome
  if known && colored && (packing != unpacked || pointsArePlaced b tags height) then some (width, height) else none

/-- The bytes of the head of a file, in which there is room for a wide place. -/
def headSize (bs : Bytes) : Nat := if bs.getD 2 0 = 0x2B then 16 else 8

/-- Where the tags about a picture of tags stand: in its first directory. -/
def source? (bs : Bytes) : Option TagSource :=
  match TagBlock.ofHead bs (bs.take (headSize bs)) with
  | .error _ => none
  | .ok b => do
    let (width, height) ← size? b (b.directory b.first)
    if b.first != 0 && 0 < width && 0 < height && isSize width.toNat height.toNat then some (.file b) else none

end RaceAlbum.Picture.Tagged
