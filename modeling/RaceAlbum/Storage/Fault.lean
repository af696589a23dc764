import RaceAlbum.Storage.Path
import RaceAlbum.Text.Quoted

/-!
# Faults of files

Three things stop the storing or the removal of a file: what stands in its way in the tree of files, what the disk refuses, and
folders that are nested too deep to be made.
-/

namespace RaceAlbum

/-- What a disk refuses, whatever files and folders there are. -/
inductive DiskFault where
  | broken
  | forbidden
  | fileTooLarge
  | full
  | readOnly
  | overQuota
deriving DecidableEq

/-- What the file system refuses. -/
inductive FileFault where
  | missing
  | alreadyThere
  | notAFolder
  | isAFolder
  | nameTooLong
  | disk (f : DiskFault)
deriving DecidableEq

/-- The number of a fault of the disk. -/
def DiskFault.number : DiskFault → Nat
  | broken => 5
  | forbidden => 13
  | fileTooLarge => 27
  | full => 28
  | readOnly => 30
  | overQuota => 122

/-- A fault of the disk in words. -/
def DiskFault.words : DiskFault → String
  | broken => "Input/output error"
  | forbidden => "Permission denied"
  | fileTooLarge => "File too large"
  | full => "No space left on device"
  | readOnly => "Read-only file system"
  | overQuota => "Disk quota exceeded"

namespace FileFault

/-- The number of a fault. -/
def number : FileFault → Nat
  | missing => 2
  | alreadyThere => 17
  | notAFolder => 20
  | isAFolder => 21
  | nameTooLong => 36
  | disk f => f.number

/-- A fault in words. -/
def words : FileFault → String
  | missing => "No such file or directory"
  | alreadyThere => "File exists"
  | notAFolder => "Not a directory"
  | isAFolder => "Is a directory"
  | nameTooLong => "File name too long"
  | disk f => f.words

end FileFault

/-- A fault and the path at which it arose. A file that is open already is written without a look at its path. -/
structure FileFailure where
  fault : FileFault
  path? : Option FilePath

/-- The failure in words. -/
def FileFailure.text (f : FileFailure) : String :=
  let cause := "[Errno " ++ natText f.fault.number ++ "] " ++ f.fault.words
  match f.path? with
  | some p => cause ++ ": " ++ quoted p.text
  | none => cause

/-- What stops a step: a fault, or folders that are nested too deep. -/
inductive FileStop where
  | failed (f : FileFailure)
  | tooDeep

/-- A disk during one step: which folders it does not make, whether it opens a file that is to be written, how many bytes it takes
before it refuses the rest, and whether it gives up a file. -/
structure Disk where
  folder? : FilePath → Option DiskFault
  opening? : Option DiskFault
  cut? : Option (Nat × DiskFault)
  removal? : Option DiskFault

/-- A disk that refuses nothing. -/
def Disk.faultless : Disk := ⟨fun _ => none, none, none, none⟩

/-- How many calls one inside the other may make folders, each for the folder above that of the call around it. -/
def nestedCallsMax : Nat := 988

end RaceAlbum
