/-!
# Powers

The powers of two, which bound the numbers of a width of bits, and the powers of ten, which move a decimal point.
-/

namespace RaceAlbum

/-- A power of two. -/
def twoPow (k : Nat) : Nat := Nat.pow 2 k

/-- A power of ten. -/
def tenPow (k : Nat) : Nat := Nat.pow 10 k

end RaceAlbum
