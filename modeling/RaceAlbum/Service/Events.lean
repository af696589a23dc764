import RaceAlbum.Event.Rules

/-!
# The service of events

Listing, showing, creating, changing and deleting events. An event that is deleted is not there for any of them.
-/

namespace RaceAlbum.EventService

/-- The name of an event in refusals. -/
def entity : String := "Event"

/-- A page of the events. -/
def list (page : Page) : Program (List EventListItem) := .call (.listEvents page)

/-- An event by itself. -/
def get (id : Uuid) : Program EventDetail := do
  let e : Option EventDetail ← Program.call (.showEvent id)
  Program.found entity id e

/-- An event that is to be changed. -/
def find (id : Uuid) : Program Event := do
  let e : Option Event ← Program.call (.findEvent id)
  Program.found entity id e

/-- Saves an event and tells its identifier. -/
def save (e : Event) : Program Uuid := do
  let saved : Event ← Program.call (.saveEvent e)
  return saved.id

/-- Creates an event. -/
def create (e : NewEvent) : Program Uuid := do
  let e ← Event.create e
  save e

/-- Changes an event. -/
def update (id : Uuid) (patch : EventPatch) : Program Uuid := do
  let e ← find id
  match ← e.update (.ofPatch patch) with
  | (_, some f) => .failed f
  | (e, none) => save e

/-- Deletes an event. -/
def delete (id : Uuid) : Program Uuid := do
  let e ← find id
  let e ← e.softDelete
  save e

end RaceAlbum.EventService
