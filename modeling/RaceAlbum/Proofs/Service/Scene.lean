import RaceAlbum.Proofs.Archive.Constraints
import RaceAlbum.Proofs.World.Tape

/-!
# Calls side by side

A scene holds calls under way and the rows and objects that they share. One of them at a time asks its next question, which
is answered at once; which one it is, is left to a schedule. Each call has a tape of its own, so that what a call is given
does not depend on the schedule.
-/

namespace RaceAlbum

open Program

/-- A call under way: what is left of its program and of its tape. -/
structure Thread where
  call : ServiceCall
  tape : Tape
  program : Program call.Answer

namespace Thread

/-- A call before its first question. -/
def start (c : ServiceCall × Tape) : Thread := ⟨c.1, c.2, c.1.program⟩

/-- The call has no question left. -/
def IsFinished (t : Thread) : Prop := ∀ p next, t.program ≠ .ask p next

/-- The call has ended without a failure. -/
def succeeded (t : Thread) : Bool :=
  match t.program with
  | .done _ => true
  | _ => false

end Thread

/-- Calls under way, and the rows and objects that they share. -/
structure Scene where
  threads : List Thread
  archive : Archive
  storage : Storage

namespace Scene

/-- Calls before their first questions, with no rows. -/
def start (calls : List (ServiceCall × Tape)) (s : Storage) : Scene := ⟨calls.map Thread.start, .empty, s⟩

/-- One call asks its next question. -/
def step (s : Scene) (i : Nat) : Scene :=
  match s.threads[i]? with
  | none => s
  | some t =>
    let (program, w) := t.program.step taped ⟨t.tape, s.archive, s.storage⟩
    ⟨s.threads.set i { t with tape := w.supply, program := program }, w.archive, w.storage⟩

/-- The calls ask their questions in the order of a schedule. -/
def run (s : Scene) (schedule : List Nat) : Scene := schedule.foldl step s

/-- The constraints of the tables hold after each step. -/
theorem step_constrained {s : Scene} (i : Nat) (hs : s.archive.Constrained) : (s.step i).archive.Constrained := by
  unfold step
  split
  · exact hs
  · exact hs.step _

/-- The constraints of the tables hold after every run of calls side by side. -/
theorem run_constrained {s : Scene} (schedule : List Nat) (hs : s.archive.Constrained) :
    (s.run schedule).archive.Constrained := by
  induction schedule generalizing s with
  | nil => exact hs
  | cons i schedule ih => exact ih (step_constrained i hs)

end Scene

end RaceAlbum
