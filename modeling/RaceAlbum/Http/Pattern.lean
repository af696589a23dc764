import RaceAlbum.Failure

/-!
# Patterns of paths

A pattern is written as a path in which names between braces stand for parts of one step each. A path fits a pattern as
a whole, though a line end after it does not count.
-/

namespace RaceAlbum

/-- A piece of a pattern: fixed characters, or a part of a step under a name. -/
inductive PatternPiece where
  | fixed (cs : List Char)
  | part (name : String)
deriving DecidableEq

/-- A pattern of paths. -/
abbrev Pattern := List PatternPiece

namespace Pattern

/-- Whether a character may begin a name. -/
def beginsName (c : Char) : Bool := c.isAlpha || c == '_'

/-- Reads the name of a part after its opening brace. -/
def name? (cs : List Char) : Option (String × List Char) :=
  match cs.span fun c => beginsName c || isDigit c with
  | (c :: name, '}' :: rest) => if beginsName c then some (String.ofList (c :: name), rest) else none
  | _ => none

/-- Reads a pattern; `held` are the fixed characters read last, the last one first. -/
def read : (fuel : Nat) → (held : List Char) → List Char → Pattern
  | 0, held, _ => [.fixed held.reverse]
  | _, held, [] => [.fixed held.reverse]
  | fuel + 1, held, c :: cs =>
    match if c = '{' then name? cs else none with
    | some (name, rest) => .fixed held.reverse :: .part name :: read fuel [] rest
    | none => read fuel (c :: held) cs

/-- The pattern that a path with names between braces is. -/
def ofPath (path : String) : Pattern := read path.length [] path.toList

/-- How many ways there are to begin with a part: the characters before the next slash. -/
def partLength (cs : List Char) : Nat := (cs.takeWhile (· != '/')).length

/-- The parts of a path that fits a pattern, by name. A part is never empty, and as long as may be. -/
def parts? : Pattern → List Char → Option (List (String × String))
  | [], cs => if cs = [] ∨ cs = ['\n'] then some [] else none
  | .fixed w :: pattern, cs => if w.isPrefixOf cs then parts? pattern (cs.drop w.length) else none
  | .part name :: pattern, cs =>
    (List.range (partLength cs)).reverse.findSome? fun n =>
      (parts? pattern (cs.drop (n + 1))).map ((name, String.ofList (cs.take (n + 1))) :: ·)

/-- What keeps a path from being the root of others, if anything does; an empty one is none. -/
def rootFault? (path : String) : Option RootFault :=
  if path = "" then none
  else if path.toList.head? ≠ some '/' then some .noSlashInFront
  else if path.toList.getLast? = some '/' then some .slashAtEnd
  else none

end Pattern

end RaceAlbum
