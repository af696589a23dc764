import RaceAlbum.Bytes

/-!
# Checksums of chunks

The checksum of a chunk is the remainder of its bits, each a shift away from the one before.
-/

namespace RaceAlbum.Picture

/-- One bit of the remainder of a checksum. -/
def checksumBit (c : UInt32) : UInt32 := if c &&& 1 = 1 then (c >>> 1) ^^^ 0xEDB88320 else c >>> 1

/-- One byte of the remainder of a checksum. -/
def checksumByte (c : UInt32) (b : UInt8) : UInt32 :=
  (List.range 8).foldl (fun c _ => checksumBit c) (c ^^^ b.toUInt32)

/-- The checksum of bytes. -/
def checksum (bs : Bytes) : Nat := ((bs.foldl checksumByte 0xFFFFFFFF) ^^^ 0xFFFFFFFF).toNat

end RaceAlbum.Picture
