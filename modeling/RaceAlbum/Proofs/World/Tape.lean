import RaceAlbum.Proofs.Program.Run
import RaceAlbum.Proofs.Service.Questions

/-!
# Readings and identifiers on a tape

A tape holds the readings of the clock and the identifiers that a run is given, in their order. It leaves open where they
come from: whatever a supply tells a run that ends, a tape tells it as well. A run that takes more than the tape holds is
told so.

`Drew w w' ms us` says that the tape was drawn on and nothing else: the readings `ms` and the identifiers `us` were taken.
-/

namespace RaceAlbum

open Program

/-- The readings of the clock and the identifiers that are still to be given. -/
structure Tape where
  moments : List Moment
  ids : List Uuid
deriving DecidableEq

namespace Tape

/-- The failure of a question to a tape that is used up. -/
def usedUp : Failure := .unexpected "the tape is used up"

/-- Answers with what comes next on the tape. -/
def answer : Handler Tape
  | .readClock, ⟨m :: ms, us⟩ => (.ok m, ⟨ms, us⟩)
  | .takeId, ⟨ms, u :: us⟩ => (.ok u, ⟨ms, us⟩)
  | .readClock, t | .takeId, t => (.error usedUp, t)
  | _, t => (.error misaddressed, t)

/-- The readings `ms` and the identifiers `us` were taken off a tape. -/
structure Reads (t t' : Tape) (ms : List Moment) (us : List Uuid) : Prop where
  moments : t.moments = ms ++ t'.moments
  ids : t.ids = us ++ t'.ids

namespace Reads

variable {t t₁ t' : Tape} {ms ms' : List Moment} {us us' : List Uuid}

theorem refl (t : Tape) : t.Reads t [] [] := ⟨rfl, rfl⟩

theorem trans (h : t.Reads t₁ ms us) (h' : t₁.Reads t' ms' us') : t.Reads t' (ms ++ ms') (us ++ us') := by
  constructor
  · rw [h.moments, h'.moments, List.append_assoc]
  · rw [h.ids, h'.ids, List.append_assoc]

end Reads

/-- Every answer takes at most what comes next off the tape. -/
theorem answer_reads (p : Port) (t : Tape) : ∃ ms us, t.Reads (answer p t).2 ms us := by
  cases p with
  | readClock =>
    rcases t with ⟨_ | ⟨m, ms⟩, us⟩
    · exact ⟨[], [], .refl _⟩
    · exact ⟨[m], [], rfl, rfl⟩
  | takeId =>
    rcases t with ⟨ms, _ | ⟨u, us⟩⟩
    · exact ⟨[], [], .refl _⟩
    · exact ⟨[], [u], rfl, rfl⟩
  | _ => exact ⟨[], [], .refl _⟩

end Tape

/-- The handler of a world whose supply is a tape. -/
abbrev taped : Handler (World Tape) := World.answerWith Tape.answer

variable {α β : Type} {w w₁ w' : World Tape}

/-- Every run takes some readings and identifiers off the tape. -/
theorem run_reads (x : Program α) (w : World Tape) : ∃ ms us, w.supply.Reads (run taped x w).2.supply ms us := by
  have hall : Asks (fun _ => True) x := by
    induction x with
    | done a => exact .done a
    | failed f => exact .failed f
    | ask p next ih => exact .ask trivial ih
  refine hall.run_rel (R := fun w w' => ∃ ms us, w.supply.Reads w'.supply ms us) ?_ ?_ ?_ w
  · exact fun w => ⟨[], [], .refl _⟩
  · rintro w w₁ w' ⟨ms, us, h⟩ ⟨ms', us', h'⟩
    exact ⟨_, _, h.trans h'⟩
  · intro p w _
    cases ha : p.addressee with
    | supply =>
      rw [taped, World.answerWith_supply ha]
      exact Tape.answer_reads p w.supply
    | archive =>
      rw [taped, World.answerWith_archive ha]
      exact ⟨[], [], .refl _⟩
    | storage =>
      rw [taped, World.answerWith_storage ha]
      exact ⟨[], [], .refl _⟩

/-- The tape was drawn on, and rows and objects stayed as they were. -/
structure Drew (w w' : World Tape) (ms : List Moment) (us : List Uuid) : Prop where
  reads : w.supply.Reads w'.supply ms us
  archive : w'.archive = w.archive
  storage : w'.storage = w.storage

namespace Drew

variable {ms ms' : List Moment} {us us' : List Uuid}

theorem refl (w : World Tape) : Drew w w [] [] := ⟨.refl _, rfl, rfl⟩

theorem trans (h : Drew w w₁ ms us) (h' : Drew w₁ w' ms' us') : Drew w w' (ms ++ ms') (us ++ us') :=
  ⟨h.reads.trans h'.reads, h'.archive.trans h.archive, h'.storage.trans h.storage⟩

end Drew

/-- What asks for no change draws on the tape at most. -/
theorem AsksNoWrite.run_drew {x : Program α} {r : Except Failure α} (hx : AsksNoWrite x)
    (h : run taped x w = (r, w')) : ∃ ms us, Drew w w' ms us := by
  obtain ⟨ms, us, hreads⟩ := run_reads x w
  obtain ⟨ha, hs⟩ := hx.run_rel World.SameStores.refl World.SameStores.trans
    (fun p w hp => World.answerWith_read hp w) w
  rw [h] at hreads ha hs
  exact ⟨ms, us, hreads, ha, hs⟩

/-- An identifier that is taken is the next one on the tape. -/
theorem run_takeId_ok {id : Uuid} (h : run taped takeId w = (.ok id, w')) : Drew w w' [] [id] := by
  rcases w with ⟨⟨ms, _ | ⟨u, us⟩⟩, a, s⟩
  · cases (Prod.mk.inj h).1
  · obtain ⟨hu, rfl⟩ := Prod.mk.inj h
    cases hu
    exact ⟨⟨rfl, rfl⟩, rfl, rfl⟩

/-- Where the next identifier is known, it is the one that is taken. -/
theorem takeId_taped {id : Uuid} {us : List Uuid} (h : w.supply.ids = id :: us) :
    run taped takeId w = (.ok id, { w with supply := ⟨w.supply.moments, us⟩ }) := by
  obtain ⟨⟨moments, ids⟩, archive, storage⟩ := w
  cases h
  rfl

/-- A reading of the clock takes the next one off the tape. -/
theorem readClock_taped {m : Moment} {ms : List Moment} (h : w.supply.moments = m :: ms) :
    run taped readClock w = (.ok (.ofUtc m), { w with supply := ⟨ms, w.supply.ids⟩ }) := by
  obtain ⟨⟨moments, ids⟩, archive, storage⟩ := w
  cases h
  rfl

/-- A reading of the clock is the next one on the tape, in universal time. -/
theorem run_readClock_ok {s : Stamp} (h : run taped readClock w = (.ok s, w')) :
    ∃ m, s = .ofUtc m ∧ Drew w w' [m] [] := by
  rcases w with ⟨⟨_ | ⟨m, ms⟩, us⟩, a, st⟩
  · cases (Prod.mk.inj h).1
  · obtain ⟨hs, rfl⟩ := Prod.mk.inj h
    cases hs
    exact ⟨m, rfl, ⟨rfl, rfl⟩, rfl, rfl⟩

end RaceAlbum
