import RaceAlbum.Bytes
import RaceAlbum.Event.Form
import RaceAlbum.Page
import RaceAlbum.Photo.Form

/-!
# Programs over ports

A service is a program that asks ports: the clock, the source of identifiers, the tables and the store of objects. One
question and its answer are one step, and programs that run side by side take their steps in turn. A failed answer ends
the program unless the question is asked with `attempt`.

`Program.run` answers all questions from one world; `Program.step` answers the next one only.
-/

namespace RaceAlbum

/-- The questions that a program may ask. -/
inductive Port where
  | readClock
  | takeId
  | findEvent (id : Uuid)
  | listEvents (page : Page)
  | showEvent (id : Uuid)
  | saveEvent (e : Event)
  | findPhoto (id : Uuid)
  | listPhotos (eventId : Uuid) (page : Page)
  | showPhoto (id : Uuid)
  | searchPhotos (filters : PhotoFilters) (page : Page)
  | savePhoto (p : Photo)
  | deletePhoto (id : Uuid)
  | saveClassification (p : Photo) (bundles : List Bundle)
  | putObject (key contentType : String) (data : Bytes)
  | objectUrl (key : String)
  | removeObject (key : String)

/-- What a question is answered with. -/
def Port.Answer : Port → Type
  | readClock => Moment
  | takeId => Uuid
  | findEvent _ => Option Event
  | listEvents _ => List EventListItem
  | showEvent _ => Option EventDetail
  | saveEvent _ => Event
  | findPhoto _ => Option Photo
  | listPhotos .. => List PhotoListItem
  | showPhoto _ => Option PhotoDetail
  | searchPhotos .. => List PhotoListItem
  | savePhoto _ => Photo
  | deletePhoto _ => Unit
  | saveClassification .. => Unit
  | putObject .. => Unit
  | objectUrl _ => String
  | removeObject _ => Unit

/-- A program: it is done, it has failed, or it asks a question and goes on from the answer. -/
inductive Program (α : Type) where
  | done (a : α)
  | failed (f : Failure)
  | ask (p : Port) (next : Except Failure p.Answer → Program α)

namespace Program

variable {α β : Type}

/-- Goes on from the result of a program; a failure ends the whole. -/
def bind : Program α → (α → Program β) → Program β
  | done a, k => k a
  | failed f, _ => failed f
  | ask p next, k => ask p fun answer => bind (next answer) k

instance : Monad Program where
  pure := done
  bind := bind

/-- Asks one question; a failed answer ends the program. -/
def call (p : Port) : Program p.Answer := ask p fun
  | .ok a => done a
  | .error f => failed f

/-- The program with its failure as a result. -/
def attempt : Program α → Program (Except Failure α)
  | done a => done (.ok a)
  | failed f => done (.error f)
  | ask p next => ask p fun answer => attempt (next answer)

/-- A result or a failure as a program. -/
def ofExcept : Except Failure α → Program α
  | .ok a => done a
  | .error f => failed f

/-- Goes on only if a rule holds. -/
def require (holds : Bool) (r : Rule) : Program Unit := if holds then done () else failed (.ofRule r)

/-- The result of a question about something that may not be there; its absence is a refusal. -/
def found (entity : String) (id : Uuid) : Option α → Program α
  | some a => done a
  | none => failed (.notFound entity id)

/-- Does one program after the other and collects the results. -/
def forAll (f : α → Program β) : List α → Program (List β)
  | [] => done []
  | a :: rest => do
    let b ← f a
    let bs ← forAll f rest
    return b :: bs

/-- Reads the clock. -/
def readClock : Program Stamp := do
  let m : Moment ← call .readClock
  return .ofUtc m

/-- Takes an identifier that was not used before. -/
def takeId : Program Uuid := call .takeId

end Program

/-- A handler of ports answers a question and changes its state. -/
abbrev Handler (σ : Type) := (p : Port) → σ → Except Failure p.Answer × σ

namespace Program

variable {α σ : Type}

/-- Runs a program to its end. -/
def run (h : Handler σ) : Program α → σ → Except Failure α × σ
  | done a, s => (.ok a, s)
  | failed f, s => (.error f, s)
  | ask p next, s =>
    let (answer, s) := h p s
    run h (next answer) s

/-- Takes one step of a program: the next question is answered, if there is one. -/
def step (h : Handler σ) : Program α → σ → Program α × σ
  | ask p next, s =>
    let (answer, s) := h p s
    (next answer, s)
  | x, s => (x, s)

end Program

end RaceAlbum
