import RaceAlbum.Program

/-!
# The rules of events

How an event comes to be, how it changes and how it is deleted. A name has a number of characters between two limits,
and the day of an event is not past when it is set.
-/

namespace RaceAlbum

/-- Whether a name has as many characters as the name of an event may have. -/
def isEventName (name : String) : Bool := nameMin ≤ name.length && name.length ≤ nameMax

namespace Audit

/-- The marks of an entity that is created now. -/
def start : Program Audit := do
  let now ← Program.readClock
  return ⟨now, now, none⟩

end Audit

namespace Event

/-- Refuses a day that is past by the clock. -/
def requireDate (d : Date) : Program Unit := do
  let now ← Program.readClock
  Program.require (decide (now.wall.date.key ≤ d.key)) .dateInPast

/-- A new event, as a draft without photos. -/
def create (e : NewEvent) : Program Event := do
  Program.require (isEventName e.name) .nameLength
  requireDate e.date
  let id ← Program.takeId
  let audit ← Audit.start
  return ⟨id, e.name, e.date, e.location, .draft, 0, 0, audit⟩

/-- What is changed in an event: each part only if it is given, and the place may be cleared. -/
structure Changes where
  name : Option String
  date : Option Date
  location : Option (Option String)
deriving DecidableEq

/-- The changes that a message asks for. A name or a day that it leaves empty stays as it is. -/
def Changes.ofPatch (p : EventPatch) : Changes where
  name := p.name.toOption
  date := p.date.toOption
  location := if p.location.isPresent then some p.location.toOption else none

/-- The event with the changed name, or the refusal of the name. -/
def rename (e : Event) : Option String → Except Failure Event
  | none => .ok e
  | some name => if isEventName name then .ok { e with name } else .error (.ofRule .nameLength)

/-- Changes an event. The name is set before the day is checked, so that a refused day leaves the event with the new
name and nothing else: the event after the changes comes with the refusal, if there is one. -/
def update (e : Event) (c : Changes) : Program (Event × Option Failure) :=
  match e.rename c.name with
  | .error f => return (e, some f)
  | .ok e => do
    match ← (match c.date with
      | some d => requireDate d
      | none => pure ()).attempt with
    | .error f => return (e, some f)
    | .ok () =>
      let now ← Program.readClock
      let e := { e with date := c.date.getD e.date, location := c.location.getD e.location }
      return ({ e with audit := { e.audit with updatedAt := now } }, none)

/-- Deletes an event: it keeps all but the marks of its deletion. -/
def softDelete (e : Event) : Program Event := do
  let now ← Program.readClock
  return { e with audit := { e.audit with deletedAt := some now, updatedAt := now } }

end Event

end RaceAlbum
