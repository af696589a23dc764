/-!
# Pages

A long list is answered page by page. Pages are counted from one.
-/

namespace RaceAlbum

/-- A page of a list: its number and how many items a page has. -/
structure Page where
  number : Int
  limit : Int
deriving DecidableEq

namespace Page

/-- How many items come before the page. -/
def skip (p : Page) : Int := (p.number - 1) * p.limit

/-- How many items the page has at most. -/
def take (p : Page) : Int := p.limit

/-- The items of a list from a number of items on and up to a number of items. A negative start is the start of the
list, and a negative count means all that is left. -/
def slice {α : Type} (skip take : Int) (xs : List α) : List α :=
  let rest := xs.drop skip.toNat
  if take < 0 then rest else rest.take take.toNat

/-- The items of a list that are on the page. -/
def items {α : Type} (p : Page) (xs : List α) : List α := slice p.skip p.take xs

end Page

end RaceAlbum
