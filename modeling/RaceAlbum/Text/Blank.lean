/-!
# White space

Two classes of blank characters: the ones of the Unicode property `White_Space`, and those together with the four
information separators. Numbers are read between blanks of the first class; a file name must hold a character
outside the second.
-/

namespace RaceAlbum

/-- A character of the Unicode property `White_Space`. -/
def isBlank (c : Char) : Bool :=
  let n := c.toNat
  (9 ≤ n && n ≤ 13) || n == 0x20 || n == 0x85 || n == 0xA0 || n == 0x1680 || (0x2000 ≤ n && n ≤ 0x200A)
    || n == 0x2028 || n == 0x2029 || n == 0x202F || n == 0x205F || n == 0x3000

/-- A blank or one of the four information separators. -/
def isBlankOrSeparator (c : Char) : Bool := isBlank c || (0x1C ≤ c.toNat && c.toNat ≤ 0x1F)

/-- Drops the characters of a class at the end of a text. -/
def trimEnd (p : Char → Bool) (cs : List Char) : List Char := (cs.reverse.dropWhile p).reverse

/-- Drops the characters of a class at both ends of a text. -/
def trim (p : Char → Bool) (cs : List Char) : List Char := trimEnd p (cs.dropWhile p)

/-- Drops the characters of a class at the end of a text. -/
def trimEndText (p : Char → Bool) (s : String) : String := String.ofList (trimEnd p s.toList)

end RaceAlbum
