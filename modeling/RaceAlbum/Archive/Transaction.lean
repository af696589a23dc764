import RaceAlbum.Archive.Basic

/-!
# Transactions

Statements are made as one. Each of them works on the rows as the ones before it left them, and none of these rows is
kept before the last statement is made. The first refusal takes back what was done and is passed on as it is.
-/

namespace RaceAlbum

/-- A statement: it changes the rows or is refused. -/
abbrev Statement := Archive → Except Failure Archive

/-- A transaction under way: the rows that are kept, and the rows as its statements left them. -/
structure Transaction where
  kept : Archive
  working : Archive

namespace Transaction

/-- A transaction begins with the rows that are kept. -/
def start (a : Archive) : Transaction := ⟨a, a⟩

/-- Makes one statement. One that is refused changes nothing, and what was done before it stays. -/
def execute (t : Transaction) (s : Statement) : Except Failure Unit × Transaction :=
  match s t.working with
  | .ok a => (.ok (), { t with working := a })
  | .error f => (.error f, t)

/-- Makes statements one after the other, up to the first that is refused. -/
def executeAll (t : Transaction) : List Statement → Except Failure Unit × Transaction
  | [] => (.ok (), t)
  | s :: rest =>
    match t.execute s with
    | (.ok (), t) => t.executeAll rest
    | (.error f, t) => (.error f, t)

/-- Keeps what was done. -/
def commit (t : Transaction) : Transaction := { t with kept := t.working }

/-- Takes back what was done. -/
def rollback (t : Transaction) : Transaction := { t with working := t.kept }

/-- Keeps what all statements did, or takes back what was done before a refusal. -/
def run (t : Transaction) (statements : List Statement) : Except Failure Unit × Transaction :=
  match t.executeAll statements with
  | (.ok (), t) => (.ok (), t.commit)
  | (.error f, t) => (.error f, t.rollback)

end Transaction

namespace Archive

/-- Makes statements as one on the rows of the archive. -/
def transact (a : Archive) (statements : List Statement) : Except Failure Unit × Archive :=
  let (r, t) := (Transaction.start a).run statements
  (r, t.working)

/-- What records a classification: the photo is marked, then the cyclists, the colours and the plates are added. -/
def classification (p : PhotoRow) (bundles : List Bundle) : List Statement :=
  (fun a => a.markPhoto p.id p.status p.unclassifiedReason p.processedAt) ::
    (bundles.map (fun b a => a.addCyclist (.ofEntity b.cyclist)) ++
      bundles.flatMap (fun b => b.colors.map fun c a => a.addColor (.ofEntity c)) ++
      bundles.filterMap (fun b => b.plate.map fun p a => a.addPlate (.ofEntity p)))

/-- Records a classification: the photo is marked and all that was seen on it is added, or nothing is. -/
def saveClassification (a : Archive) (p : PhotoRow) (bundles : List Bundle) : Except Failure Unit × Archive :=
  a.transact (classification p bundles)

end Archive

end RaceAlbum
