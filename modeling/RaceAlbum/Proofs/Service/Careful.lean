import Mathlib.Data.List.Forall2
import RaceAlbum.Proofs.Service.AllOrNothing
import RaceAlbum.Proofs.Service.Scene
import RaceAlbum.Proofs.Storage.Objects

/-!
# How calls handle objects

A lot is a file of an upload with the two identifiers that were drawn for it: the mark in its key, and the identifier of its
photo. Calls handle lots with care: an object is stored only for the next lot, and its row is saved right after that; where
the row is refused, or was deleted, the object is removed right after that. `Careful` is this way of programs. It says what
lots a program has still to do and at which stage it is, whatever else happens between its questions.
-/

namespace RaceAlbum

open Program

/-- A file of an upload, with the identifiers that were drawn for it. -/
structure Lot where
  eventId : Uuid
  file : UploadedFile
  mark : Uuid
  id : Uuid

/-- Where a photo comes from: its identifier, its event, and the name, the key and the size of its file. -/
structure Origin where
  id : Uuid
  eventId : Uuid
  filename : String
  key : String
  size : Int

/-- Where the photo of a row comes from. -/
def PhotoRow.origin (r : PhotoRow) : Origin := ⟨r.id, r.eventId, r.filename, r.storageKey, r.fileSize⟩

namespace Lot

/-- The key of the object of a lot. -/
def key (l : Lot) : String := photoKey l.eventId l.mark l.file.filename

/-- Where the photo of a lot comes from. -/
def origin (l : Lot) : Origin := ⟨l.id, l.eventId, l.file.filename, l.key, l.file.data.length⟩

end Lot

/-- The lots of an upload: for each file in turn, the next two identifiers. -/
def lots (eventId : Uuid) : List UploadedFile → List Uuid → List Lot
  | file :: files, mark :: id :: ids => ⟨eventId, file, mark, id⟩ :: lots eventId files ids
  | _, _ => []

/-- The lots of a call with a tape. -/
def lotsOf : ServiceCall × Tape → List Lot
  | (.uploadPhotos eventId files, t) => lots eventId files t.ids
  | _ => []

/-- Where a program stands: it may know a lot whose row was there; it has stored the object of a lot and is about to save its
row; or it is about to remove the object of a lot that has no row. -/
inductive Stage where
  | calm (seen : Option Lot)
  | saving (l : Lot)
  | removing (l : Lot)

/-- Whether a question has nothing to do with identifiers, single photos or objects. -/
def Port.isAside : Port → Bool
  | takeId | findPhoto _ | savePhoto _ | deletePhoto _ | putObject .. | removeObject _ => false
  | _ => true

namespace Program

variable {α β : Type} {T : Prop} {Q : α → List Uuid → List Lot → Option Lot → Prop}
  {Q' : β → List Uuid → List Lot → Option Lot → Prop}

/-- A program that handles lots with care: with these identifiers to be given, these lots to be done, and at this stage. It
leaves an object without a row for a while only if `T` holds, and `Q` holds of what it ends with. -/
inductive Careful (T : Prop) (Q : α → List Uuid → List Lot → Option Lot → Prop) :
    List Uuid → List Lot → Stage → Program α → Prop where
  | done {ids todo seen a} : Q a ids todo seen → Careful T Q ids todo (.calm seen) (.done a)
  | failed {ids todo seen f} : Careful T Q ids todo (.calm seen) (.failed f)
  | aside {ids todo seen} {p : Port} {next : Except Failure p.Answer → Program α} :
      p.isAside = true → (∀ r, Careful T Q ids todo (.calm seen) (next r)) →
        Careful T Q ids todo (.calm seen) (.ask p next)
  | takeId {ids todo seen} {next : Except Failure Uuid → Program α} :
      (∀ f, Careful T Q ids todo (.calm seen) (next (.error f))) →
      (∀ u rest, ids = u :: rest → Careful T Q rest todo (.calm seen) (next (.ok u))) →
        Careful T Q ids todo (.calm seen) (.ask .takeId next)
  | findPhoto {ids todo seen id} {next : Except Failure (Option Photo) → Program α} :
      (∀ f, Careful T Q ids todo (.calm seen) (next (.error f))) →
      Careful T Q ids todo (.calm seen) (next (.ok none)) →
      (∀ p l, p.id = l.id → p.storageKey = l.key → Careful T Q ids todo (.calm (some l)) (next (.ok (some p)))) →
        Careful T Q ids todo (.calm seen) (.ask (.findPhoto id) next)
  | putObject {ids todo seen} {l : Lot} {contentType : String} {next : Except Failure Unit → Program α} :
      (∀ f, Careful T Q ids todo (.calm seen) (next (.error f))) →
      Careful T Q ids todo (.saving l) (next (.ok ())) →
        Careful T Q ids (l :: todo) (.calm seen) (.ask (.putObject l.key contentType l.file.data) next)
  | savePhoto {ids todo} {l : Lot} {p : Photo} {next : Except Failure Photo → Program α} :
      T → (PhotoRow.ofEntity p).origin = l.origin → (∀ f, Careful T Q ids todo (.removing l) (next (.error f))) →
      (∀ q, Careful T Q ids todo (.calm none) (next (.ok q))) →
        Careful T Q ids todo (.saving l) (.ask (.savePhoto p) next)
  | deletePhoto {ids todo} {l : Lot} {next : Except Failure Unit → Program α} :
      (∀ f, Careful T Q ids todo (.calm none) (next (.error f))) →
      Careful T Q ids todo (.removing l) (next (.ok ())) →
        Careful T Q ids todo (.calm (some l)) (.ask (.deletePhoto l.id) next)
  | removeObject {ids todo} {l : Lot} {next : Except Failure Unit → Program α} :
      T → (∀ r, Careful T Q ids todo (.calm none) (next r)) →
        Careful T Q ids todo (.removing l) (.ask (.removeObject l.key) next)

namespace Careful

variable {ids : List Uuid} {todo : List Lot} {stage : Stage} {seen : Option Lot}

theorem bind {x : Program α} {k : α → Program β} (hx : Careful T Q ids todo stage x)
    (hk : ∀ a ids todo seen, Q a ids todo seen → Careful T Q' ids todo (.calm seen) (k a)) :
    Careful T Q' ids todo stage (x >>= k) := by
  change Careful T Q' ids todo stage (Program.bind x k)
  induction hx with
  | done hq => exact hk _ _ _ _ hq
  | failed => exact .failed
  | aside hp _ ih => exact .aside hp ih
  | takeId _ _ ihe ih => exact .takeId ihe ih
  | findPhoto _ _ _ ihe ihn ihs => exact .findPhoto ihe ihn ihs
  | putObject _ _ ihe ih => exact .putObject ihe ih
  | savePhoto hT horigin _ _ ihe ih => exact .savePhoto hT horigin ihe ih
  | deletePhoto _ _ ihe ih => exact .deletePhoto ihe ih
  | removeObject hT _ ih => exact .removeObject hT ih

/-- What holds of the ends of a program may be weakened. -/
theorem mono {Q₁ : α → List Uuid → List Lot → Option Lot → Prop} {x : Program α} (hx : Careful T Q ids todo stage x)
    (hQ : ∀ a ids todo seen, Q a ids todo seen → Q₁ a ids todo seen) : Careful T Q₁ ids todo stage x := by
  rw [← bind_done x]
  exact hx.bind fun a ids todo seen h => .done (hQ a ids todo seen h)

/-- What is asked aside changes nothing of where a program stands. -/
theorem of_aside {x : Program α} (hx : Asks (fun p => p.isAside = true) x) :
    Careful T (fun _ ids' todo' seen' => ids' = ids ∧ todo' = todo ∧ seen' = seen) ids todo (.calm seen) x := by
  induction hx with
  | done a => exact .done ⟨rfl, rfl, rfl⟩
  | failed f => exact .failed
  | ask hp _ ih => exact .aside hp ih

/-- What is asked aside, or takes identifiers, does no lots and forgets none. -/
theorem of_asks {x : Program α} (hx : Asks (fun p => p.isAside = true ∨ p = .takeId) x) :
    Careful T (fun _ _ todo' seen' => todo' = todo ∧ seen' = seen) ids todo (.calm seen) x := by
  induction hx generalizing ids with
  | done a => exact .done ⟨rfl, rfl⟩
  | failed f => exact .failed
  | @ask p next hp _ ih =>
    rcases hp with hp | rfl
    · exact .aside hp fun r => ih r
    · exact .takeId (fun f => ih _) fun u rest _ => ih _

/-- A program that has stored the object of a lot saves its row. -/
theorem asks_savePhoto {l : Lot} {x : Program α} (hx : Careful T Q ids todo (.saving l) x) :
    T ∧ ∃ p next, x = ask (.savePhoto p) next ∧ p.storageKey = l.key := by
  cases hx with
  | savePhoto hT horigin _ _ => exact ⟨hT, _, _, rfl, congrArg Origin.key horigin⟩

/-- A program that is about to remove the object of a lot does so. -/
theorem asks_removeObject {l : Lot} {x : Program α} (hx : Careful T Q ids todo (.removing l) x) :
    T ∧ ∃ next, x = ask (.removeObject l.key) next := by
  cases hx with
  | removeObject hT _ => exact ⟨hT, _, rfl⟩

end Careful

end Program

variable {α : Type} {T : Prop} {ids : List Uuid} {todo : List Lot} {seen : Option Lot}

/-! ## Calls that touch no objects -/

/-- A program asks aside or takes identifiers. -/
abbrev AsksAside (x : Program α) : Prop := Asks (fun p => p.isAside = true ∨ p = .takeId) x

/-- What asks the supply only takes identifiers at most. -/
theorem AsksSupply.aside {x : Program α} (hx : AsksSupply x) : AsksAside x := by
  refine hx.mono fun p hp => ?_
  cases p <;> first | exact .inl rfl | exact .inr rfl | cases hp

theorem call_asksAside {p : Port} (hp : p.isAside = true) : AsksAside (call p) := .call (.inl hp)

/-- A program with nothing but trivial ends. -/
abbrev CarefulProgram (T : Prop) (ids : List Uuid) (todo : List Lot) (stage : Stage) (x : Program α) : Prop :=
  Careful T (fun _ _ _ _ => True) ids todo stage x

theorem AsksAside.careful {x : Program α} (hx : AsksAside x) : CarefulProgram T ids todo (.calm seen) x :=
  (Careful.of_asks hx).mono fun _ _ _ _ _ => trivial

/-- A photo that is found has a lot. -/
theorem findPhoto_careful (id : Uuid) :
    Careful T (fun p _ todo' seen' => todo' = todo ∧ ∃ l, seen' = some l ∧ p.id = l.id ∧ p.storageKey = l.key)
      ids todo (.calm seen) (PhotoService.find id) := by
  refine .findPhoto (fun f => .failed) .failed fun p l hid hkey => ?_
  exact .done ⟨rfl, l, rfl, hid, hkey⟩

/-- What looks a photo up and then asks aside is careful. -/
theorem findPhoto_bind_careful {id : Uuid} {k : Photo → Program α} (hk : ∀ p, AsksAside (k p)) :
    CarefulProgram T ids todo (.calm seen) (PhotoService.find id >>= k) :=
  (findPhoto_careful id).bind fun p _ _ _ _ => (hk p).careful

/-! ## Deletions -/

theorem deletePhoto_careful (hT : T) (id : Uuid) : CarefulProgram T ids todo (.calm seen) (PhotoService.delete id) := by
  refine (findPhoto_careful id).bind fun p ids' todo' seen' => ?_
  rintro ⟨rfl, l, rfl, hid, hkey⟩
  rw [hid, hkey]
  refine .deletePhoto (fun f => .failed) (.removeObject hT fun r => ?_)
  cases r with
  | error f => exact .failed
  | ok _ => exact .done trivial

/-! ## Uploads -/

/-- A photo that was prepared of a lot. -/
structure Lot.Ready (q : UploadedFile × Photo) (l : Lot) : Prop where
  file : q.1 = l.file
  origin : (PhotoRow.ofEntity q.2).origin = l.origin

/-- Preparing a file takes the identifiers of its lot. -/
theorem prepare_careful (eventId : Uuid) (file : UploadedFile) :
    Careful T (fun q ids' todo' _ => todo' = todo ∧ ∃ mark id, ids = mark :: id :: ids' ∧
      Lot.Ready q ⟨eventId, file, mark, id⟩) ids todo (.calm seen) (PhotoService.prepare eventId file) := by
  refine .takeId (fun f => .failed) fun mark rest hids => ?_
  refine (Careful.of_aside (Asks.ofExcept _)).bind fun captured ids' todo' seen' => ?_
  rintro ⟨rfl, rfl, rfl⟩
  unfold Photo.create
  split
  · exact .failed
  · refine .takeId (fun f => .failed) fun id rest' hrest => .aside rfl fun r => ?_
    cases r with
    | error f => exact .failed
    | ok m => exact .done ⟨rfl, mark, id, hrest ▸ hids, rfl, rfl⟩

/-- Preparing files takes the identifiers of their lots. -/
theorem prepareAll_careful (eventId : Uuid) (files : List UploadedFile) :
    Careful T (fun qs _ todo' _ => todo' = todo ∧ List.Forall₂ Lot.Ready qs (lots eventId files ids)) ids todo
      (.calm seen) (forAll (PhotoService.prepare eventId) files) := by
  induction files generalizing ids seen with
  | nil => exact .done ⟨rfl, .nil⟩
  | cons file files ih =>
    refine (prepare_careful eventId file).bind fun q ids' todo' seen' => ?_
    rintro ⟨rfl, mark, id, rfl, hq⟩
    refine ih.bind fun qs ids'' todo'' seen'' => ?_
    rintro ⟨rfl, hqs⟩
    exact .done ⟨rfl, .cons hq hqs⟩

/-- Storing a file does its lot. -/
theorem store_careful (hT : T) {q : UploadedFile × Photo} {l : Lot} (hq : Lot.Ready q l) :
    Careful T (fun _ _ todo' _ => todo' = todo) ids (l :: todo) (.calm seen) (PhotoService.store q) := by
  obtain ⟨file, p⟩ := q
  obtain ⟨rfl, horigin⟩ := hq
  have hkey : p.storageKey = l.key := congrArg Origin.key horigin
  change Careful _ _ _ _ _ (call (.putObject p.storageKey l.file.contentType l.file.data) >>= _)
  rw [hkey]
  refine .putObject (fun f => .failed) (.savePhoto hT horigin (fun f => ?_) fun saved => .done rfl)
  -- The row is refused: the object is removed, and the refusal is passed on whatever comes of the removal.
  refine .removeObject hT fun r => ?_
  rcases r with (_ | _) | _
  all_goals exact .failed

/-- Storing files does their lots. -/
theorem storeAll_careful (hT : T) {qs : List (UploadedFile × Photo)} {todo : List Lot}
    (hqs : List.Forall₂ Lot.Ready qs todo) :
    CarefulProgram T ids todo (.calm seen) (forAll PhotoService.store qs) := by
  induction hqs generalizing ids seen with
  | nil => exact .done trivial
  | cons hq _ ih =>
    refine (store_careful hT hq).bind fun id ids' todo' seen' => ?_
    rintro rfl
    exact ih.bind fun _ _ _ _ _ => .done trivial

theorem upload_careful (hT : T) (eventId : Uuid) (files : List UploadedFile) :
    CarefulProgram T ids (lots eventId files ids) (.calm seen) (PhotoService.upload eventId files) := by
  refine .aside rfl fun r => ?_
  rcases r with f | _ | e
  · exact .failed
  · exact .failed
  · refine (prepareAll_careful eventId files).bind fun qs ids' todo' seen' => ?_
    rintro ⟨rfl, hqs⟩
    exact storeAll_careful hT hqs

/-! ## All calls -/

namespace ServiceCall

/-- The call uploads or deletes photos. -/
def TouchesObjects (c : ServiceCall) : Prop := c.isUpload = true ∨ c.DeletesPhoto

/-- Every call handles its lots with care. -/
theorem program_careful (c : ServiceCall) (t : Tape) :
    CarefulProgram c.TouchesObjects t.ids (lotsOf (c, t)) (.calm none) c.program := by
  have findEvent (id : Uuid) : AsksAside (EventService.find id) := (call_asksAside rfl).bind fun _ => .found _ _ _
  have saveEvent (e : Event) : AsksAside (EventService.save e) := (call_asksAside rfl).bind fun _ => .done _
  cases c with
  | createEvent n => exact AsksAside.careful ((createEvent_asksSupply n).aside.bind saveEvent)
  | updateEvent id patch =>
    refine AsksAside.careful ((findEvent id).bind fun e => (updateEvent_asksSupply e _).aside.bind ?_)
    rintro ⟨e', _ | f⟩
    · exact saveEvent e'
    · exact .failed f
  | deleteEvent id =>
    exact AsksAside.careful ((findEvent id).bind fun e => (softDelete_asksSupply e).aside.bind saveEvent)
  | getEvent id => exact AsksAside.careful ((call_asksAside rfl).bind fun _ => .found _ _ _)
  | listEvents page => exact (call_asksAside rfl).careful
  | uploadPhotos eventId files => exact upload_careful (.inl rfl) eventId files
  | getPhoto id =>
    exact AsksAside.careful ((call_asksAside rfl).bind fun _ => (Asks.found _ _ _).bind fun _ =>
      (call_asksAside rfl).bind fun _ => .done _)
  | listPhotos eventId page => exact (call_asksAside rfl).careful
  | searchPhotos filters page => exact (call_asksAside rfl).careful
  | deletePhoto id => exact deletePhoto_careful (.inr ⟨id, rfl⟩) id
  | classify id ds =>
    exact findPhoto_bind_careful fun p => (ofDetections_asksSupply p.id ds).aside.bind fun bs =>
      (complete_asksSupply p).aside.bind fun p => (call_asksAside rfl).bind fun _ => .done _
  | classifyLoose id ds =>
    exact findPhoto_bind_careful fun p => (looseBundles_asksSupply p.id ds).aside.bind fun bs =>
      (complete_asksSupply p).aside.bind fun p => (Asks.ofExcept _).bind fun kept =>
        (call_asksAside rfl).bind fun _ => .done _

end ServiceCall

end RaceAlbum
