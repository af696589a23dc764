import RaceAlbum.Archive.Queries
import RaceAlbum.Archive.Transaction
import RaceAlbum.Program
import RaceAlbum.Storage.Basic

/-!
# The world of a program

What answers the questions of programs: a supply of moments and identifiers, the archive and the store of objects. Each
answers the questions that are addressed to it. A write to the archive is a transaction of its own.
-/

namespace RaceAlbum

/-- Those whom questions are addressed to. -/
inductive Addressee where
  | supply
  | archive
  | storage
deriving DecidableEq

/-- Whom a question is addressed to. -/
def Port.addressee : Port → Addressee
  | readClock | takeId => .supply
  | putObject .. | objectUrl _ | removeObject _ => .storage
  | _ => .archive

/-- The failure of a question that is addressed to someone else. -/
def misaddressed : Failure := .unexpected "not the addressee"

/-! ## Moments and identifiers -/

/-- A clock that moves a fixed time at each reading, and identifiers: first the ones given, then counted ones. -/
structure Supply where
  now : Moment
  tick : Int
  ids : List Uuid
  counted : Nat
deriving DecidableEq

namespace Supply

/-- The counted identifier of a number. -/
def countedId (n : Nat) : Uuid := .ofNat (0x4000 * twoPow 64 + 0x8000 * twoPow 48 + n)

/-- Reads the clock, which then moves on. -/
def readClock (s : Supply) : Moment × Supply := (s.now, { s with now := (s.now.shift? s.tick).getD s.now })

/-- Takes the next identifier. -/
def takeId (s : Supply) : Uuid × Supply :=
  match s.ids with
  | id :: rest => (id, { s with ids := rest })
  | [] => (countedId (s.counted + 1), { s with counted := s.counted + 1 })

/-- Answers questions about moments and identifiers. -/
def answer : Handler Supply
  | .readClock, s => let (m, s) := s.readClock; (.ok m, s)
  | .takeId, s => let (id, s) := s.takeId; (.ok id, s)
  | _, s => (.error misaddressed, s)

end Supply

/-! ## The archive -/

namespace Archive

/-- Makes statements as one and answers with a value if they are kept. -/
def write {α : Type} (a : Archive) (answer : α) (statements : List Statement) : Except Failure α × Archive :=
  let (r, a) := a.transact statements
  (r.map fun () => answer, a)

/-- Answers questions about rows. -/
def answer : Handler Archive
  | .findEvent id, a => (.ok ((a.activeEvent? id).map EventRow.entity), a)
  | .listEvents page, a => (a.eventPage page, a)
  | .showEvent id, a => (.ok ((a.activeEvent? id).map EventRow.detail), a)
  | .saveEvent e, a => a.write e.assumeUtc [fun a => a.saveEvent e]
  | .findPhoto id, a => (.ok ((a.photo? id).map PhotoRow.entity), a)
  | .listPhotos eventId page, a => (a.photoPage eventId page, a)
  | .showPhoto id, a => (.ok (a.photoDetail? id), a)
  | .searchPhotos filters page, a => (a.searchPage filters page, a)
  | .savePhoto p, a => a.write p.assumeUtc [fun a => a.storePhoto p]
  | .deletePhoto id, a => a.write () [fun a => a.deletePhoto id]
  | .saveClassification p bundles, a => a.saveClassification (.ofEntity p) bundles
  | _, a => (.error misaddressed, a)

end Archive

/-! ## Objects -/

/-- Answers questions about objects. -/
def Storage.answer : Handler Storage
  | .putObject key contentType data, s => s.put key contentType data
  | .objectUrl key, s => (.ok (s.url key), s)
  | .removeObject key, s => s.remove key
  | _, s => (.error misaddressed, s)

/-! ## All together -/

/-- All that programs ask, with a supply of some kind. -/
structure World (σ : Type := Supply) where
  supply : σ
  archive : Archive
  storage : Storage
deriving DecidableEq

namespace World

/-- Passes a question on to whom it is addressed to; the supply is answered for by a handler of its own. -/
def answerWith {σ : Type} (supply : Handler σ) : Handler (World σ) := fun p w =>
  match p.addressee with
  | .supply => let (r, s) := supply p w.supply; (r, { w with supply := s })
  | .archive => let (r, a) := Archive.answer p w.archive; (r, { w with archive := a })
  | .storage => let (r, s) := Storage.answer p w.storage; (r, { w with storage := s })

/-- Answers a question. -/
def answer : Handler World := answerWith Supply.answer

end World

end RaceAlbum
