import RaceAlbum.Archive.Rows
import RaceAlbum.Failure

/-!
# The archive

The five tables. Rows stand in the order in which they were added. A statement changes one table and is refused, with
nothing changed, where a constraint is violated; the constraints are looked at in a fixed order, so that a statement
which violates several is refused for the first. Deleting a row deletes what refers to it.

How statements are made as one is the matter of `Archive/Transaction`.
-/

namespace RaceAlbum

/-- The ways to change a table. -/
inductive TableChange where
  | insert
  | update
  | delete
deriving DecidableEq

/-- The five tables, and the changes that are forbidden on them. -/
structure Archive where
  events : List EventRow
  photos : List PhotoRow
  cyclists : List CyclistRow
  plates : List PlateRow
  colors : List ColorRow
  blocks : List (Table × TableChange)
deriving DecidableEq

namespace Archive

/-- The archive without a row. -/
def empty : Archive := ⟨[], [], [], [], [], []⟩

/-- Forbids a change of a table. -/
def block (a : Archive) (t : Table) (c : TableChange) : Archive :=
  if a.blocks.contains (t, c) then a else { a with blocks := (t, c) :: a.blocks }

/-- Allows a change of a table again. -/
def unblock (a : Archive) (t : Table) (c : TableChange) : Archive :=
  { a with blocks := a.blocks.filter (· != (t, c)) }

/-- Whether a change of a table is forbidden. -/
def isBlocked (a : Archive) (t : Table) (c : TableChange) : Bool := a.blocks.contains (t, c)

/-- Refuses a statement unless a condition holds. -/
def ensure (holds : Bool) (f : Failure) : Except Failure Unit := if holds then .ok () else .error f

/-- Refuses integers of more than 64 bits. -/
def ensureIntegers (ns : List Int) : Except Failure Unit := ensure (ns.all isInt64) .integerOverflow

/-- Refuses a change that is forbidden. -/
def ensureAllowed (a : Archive) (t : Table) (c : TableChange) : Except Failure Unit :=
  ensure (!a.isBlocked t c) (.violation .blocked)

/-- There is an event of an identifier. -/
def hasEvent (a : Archive) (id : Uuid) : Bool := a.events.any fun r => r.id == id

/-- There is a photo of an identifier. -/
def hasPhoto (a : Archive) (id : Uuid) : Bool := a.photos.any fun r => r.id == id

/-- There is a cyclist of an identifier. -/
def hasCyclist (a : Archive) (id : Uuid) : Bool := a.cyclists.any fun r => r.id == id

/-- Another photo of the event has the file name. -/
def hasFilename (a : Archive) (r : PhotoRow) : Bool :=
  a.photos.any fun s => s.id != r.id && s.eventId == r.eventId && s.filename == r.filename

/-! ## Statements -/

/-- Whether saving an entity changes its row: a stamp with an offset always does, for a row keeps none. -/
def changesRow {ρ : Type} [DecidableEq ρ] (stored new : ρ) (stamps : List Stamp) : Bool :=
  stored != new || !stamps.all Stamp.isBare

/-- Adds an event, or changes the one of its identifier where there is something to change. -/
def saveEvent (a : Archive) (e : Event) : Except Failure Archive := do
  let r := EventRow.ofEntity e
  ensureIntegers r.integers
  match a.events.find? fun s => s.id == r.id with
  | some stored =>
    ensure (!(changesRow stored r e.audit.stamps && a.isBlocked .events .update)) (.violation .blocked)
    return { a with events := a.events.map fun s => if s.id = r.id then r else s }
  | none =>
    a.ensureAllowed .events .insert
    return { a with events := a.events ++ [r] }

/-- Adds a photo, or changes the one of its identifier where there is something to change. -/
def savePhoto (a : Archive) (p : Photo) : Except Failure Archive := do
  let r := PhotoRow.ofEntity p
  ensureIntegers r.integers
  match a.photos.find? fun s => s.id == r.id with
  | some stored =>
    ensure (!(changesRow stored r p.stamps && a.isBlocked .photos .update)) (.violation .blocked)
    ensure (!a.hasFilename r) (.violation .duplicateFilename)
    ensure (a.hasEvent r.eventId) (.violation .foreignKey)
    return { a with photos := a.photos.map fun s => if s.id = r.id then r else s }
  | none =>
    a.ensureAllowed .photos .insert
    ensure (!a.hasFilename r) (.violation .duplicateFilename)
    ensure (a.hasEvent r.eventId) (.violation .foreignKey)
    return { a with photos := a.photos ++ [r] }

/-- A report of a file name that another photo of the event has is the refusal of that rule; all other failures stay. -/
def foresee : Failure → Failure
  | .violation v => if Violation.reportsDuplicateFilename v.message then .ofRule .duplicateFilename else .violation v
  | f => f

/-- Adds or changes a photo; a file name that is taken is a foreseen refusal. -/
def storePhoto (a : Archive) (p : Photo) : Except Failure Archive := (a.savePhoto p).mapError foresee

/-- Sets how far a photo is processed; a photo that is not there stays so. -/
def markPhoto (a : Archive) (id : Uuid) (status : PhotoStatus) (reason : Option UnclassifiedReason)
    (processedAt : Option Moment) : Except Failure Archive := do
  ensure (!(a.hasPhoto id && a.isBlocked .photos .update)) (.violation .blocked)
  return { a with photos := a.photos.map fun r =>
    if r.id = id then { r with status := status, unclassifiedReason := reason, processedAt := processedAt } else r }

/-- Adds a cyclist. -/
def addCyclist (a : Archive) (r : CyclistRow) : Except Failure Archive := do
  a.ensureAllowed .cyclists .insert
  ensure (r.confidence != .nan) (.violation .missingConfidence)
  ensure (!a.hasCyclist r.id) (.violation (.duplicateId .cyclists))
  ensure (a.hasPhoto r.photoId) (.violation .foreignKey)
  return { a with cyclists := a.cyclists ++ [r] }

/-- Adds a colour. -/
def addColor (a : Archive) (r : ColorRow) : Except Failure Archive := do
  a.ensureAllowed .colors .insert
  ensure (r.density != .nan) (.violation .missingDensity)
  ensure (!(a.colors.any fun s => s.id == r.id)) (.violation (.duplicateId .colors))
  ensure (a.hasCyclist r.cyclistId) (.violation .foreignKey)
  return { a with colors := a.colors ++ [r] }

/-- Adds a plate. -/
def addPlate (a : Archive) (r : PlateRow) : Except Failure Archive := do
  ensureIntegers [r.number]
  a.ensureAllowed .plates .insert
  ensure (!(a.plates.any fun s => s.cyclistId == r.cyclistId)) (.violation .secondPlate)
  ensure (!(a.plates.any fun s => s.id == r.id)) (.violation (.duplicateId .plates))
  ensure (a.hasCyclist r.cyclistId) (.violation .foreignKey)
  return { a with plates := a.plates ++ [r] }

/-- The cyclist of a row is one of a photo. -/
def ofPhoto (id : Uuid) (r : CyclistRow) : Bool := r.photoId == id

/-- Some cyclist of a photo has an identifier. -/
def photoHasCyclist (a : Archive) (photoId cyclistId : Uuid) : Bool :=
  a.cyclists.any fun r => ofPhoto photoId r && r.id == cyclistId

/-- Deletes a photo with its cyclists and their plates and colours. -/
def deletePhoto (a : Archive) (id : Uuid) : Except Failure Archive := do
  let cyclists := a.cyclists.any (ofPhoto id)
  let plates := a.plates.any fun r => a.photoHasCyclist id r.cyclistId
  let colors := a.colors.any fun r => a.photoHasCyclist id r.cyclistId
  ensure (!(a.hasPhoto id && a.isBlocked .photos .delete)) (.violation .blocked)
  ensure (!(cyclists && a.isBlocked .cyclists .delete)) (.violation .blocked)
  ensure (!(plates && a.isBlocked .plates .delete)) (.violation .blocked)
  ensure (!(colors && a.isBlocked .colors .delete)) (.violation .blocked)
  return { a with
    photos := a.photos.filter fun r => r.id != id
    cyclists := a.cyclists.filter fun r => !ofPhoto id r
    plates := a.plates.filter fun r => !a.photoHasCyclist id r.cyclistId
    colors := a.colors.filter fun r => !a.photoHasCyclist id r.cyclistId }

end Archive

end RaceAlbum
