import RaceAlbum.Failure

/-!
# Checking that keeps every problem

The result of checking a value is what was read, or all the problems that were found: checking two parts finds the
problems of both. A reader is a check of a value, and a member of an object is read under one of its two names.
-/

namespace RaceAlbum

/-- What was read, or all that is wrong; or the check broke off, at a stamp that universal time moves out of the
calendar. -/
inductive Checked (α : Type) where
  | ok (a : α)
  | problems (ps : List Problem)
  | outOfCalendar

namespace Checked

/-- Changes what was read. -/
def map {α β : Type} (f : α → β) : Checked α → Checked β
  | ok a => ok (f a)
  | problems ps => problems ps
  | outOfCalendar => outOfCalendar

/-- Joins two checks; the problems of the first come first. A check that broke off breaks off the whole. -/
def both {α β : Type} (f : Checked (α → β)) (a : Checked α) : Checked β :=
  match f, a with
  | outOfCalendar, _ => outOfCalendar
  | _, outOfCalendar => outOfCalendar
  | ok f, ok a => ok (f a)
  | ok _, problems ps => problems ps
  | problems ps, ok _ => problems ps
  | problems ps, problems qs => problems (ps ++ qs)

instance : Functor Checked where map := map

instance : Applicative Checked where
  pure := ok
  seq f a := both f (a ())

/-- One problem, at the value itself. -/
def complain {α : Type} (c : Complaint) : Checked α := problems [⟨[], c⟩]

/-- A check that goes on from what was read. -/
def andThen {α β : Type} (c : Checked α) (f : α → Checked β) : Checked β :=
  match c with
  | ok a => f a
  | problems ps => problems ps
  | outOfCalendar => outOfCalendar

/-- The same check, seen from one step further out. -/
def under {α : Type} (step : PathStep) : Checked α → Checked α
  | ok a => ok a
  | problems ps => problems (ps.map (Problem.under step))
  | outOfCalendar => outOfCalendar

/-- Joins the checks of a list. -/
def sequence {α : Type} : List (Checked α) → Checked (List α)
  | [] => ok []
  | c :: cs => both (map List.cons c) (sequence cs)

/-- What was read, or the failure to read it. -/
def toExcept {α : Type} (source : Source) : Checked α → Except Failure α
  | ok a => .ok a
  | problems ps => .error (.malformed source ps)
  | outOfCalendar => .error .dateOverflow

end Checked

/-- A reader: a check of a value. -/
abbrev Reader (α : Type) := Value → Checked α

namespace Reader

/-- Nothing, or what the reader reads. -/
def optional {α : Type} (r : Reader α) : Reader (Option α)
  | .null => .ok none
  | v => (r v).map some

/-- A list whose items the reader reads. -/
def list {α : Type} (r : Reader α) : Reader (List α)
  | .list vs => .sequence (vs.mapIdx fun i v => (r v).under (.index i))
  | _ => .complain .notAList

/-- A dictionary whose values the reader reads. -/
def dictionary {α : Type} (r : Reader α) : Reader (List (String × α))
  | .object fields => .sequence (fields.map fun (name, v) => ((r v).under (.member name)).map fun a => (name, a))
  | _ => .complain .notADictionary

end Reader

/-- The two names of a member: the one that messages use, and the plain one with underscores, which is accepted in its
place. -/
structure MemberName where
  wire : String
  plain : String
deriving DecidableEq

namespace MemberName

/-- A name of one word, which is spelled alike in messages and elsewhere. -/
def word (name : String) : MemberName := ⟨name, name⟩

/-- The member of an object under either name, with the name it has there. The name that messages use wins. -/
def find? (n : MemberName) (fields : Fields) : Option (String × Value) :=
  match fields.find? n.wire with
  | some v => some (n.wire, v)
  | none => (fields.find? n.plain).map fun v => (n.plain, v)

/-- Whether an object has the member under either name. -/
def given (n : MemberName) (fields : Fields) : Bool := (n.find? fields).isSome

/-- Reads a member that must be there. -/
def required {α : Type} (n : MemberName) (r : Reader α) (fields : Fields) : Checked α :=
  match n.find? fields with
  | some (name, v) => (r v).under (.member name)
  | none => .problems [⟨[.member n.wire], .missing⟩]

/-- Reads a member that may be missing; then it has a value of its own. -/
def withDefault {α : Type} (n : MemberName) (r : Reader α) (missing : α) (fields : Fields) : Checked α :=
  match n.find? fields with
  | some (name, v) => (r v).under (.member name)
  | none => .ok missing

end MemberName

/-- A form that values of a type have: its name, the names of its members, and its two directions. -/
structure Form (α : Type) where
  name : String
  members : List MemberName
  read : Fields → Checked α
  write : α → Fields

namespace Form

/-- Reads an object of the form. -/
def reader {α : Type} (f : Form α) : Reader α
  | .object fields => f.read fields
  | _ => .complain (.notAnObject f.name)

/-- Writes an object of the form. -/
def value {α : Type} (f : Form α) (a : α) : Value := .object (f.write a)

end Form

end RaceAlbum
