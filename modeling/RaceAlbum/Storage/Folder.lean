import RaceAlbum.Failure
import RaceAlbum.Program
import RaceAlbum.Storage.Fault
import RaceAlbum.Text.Blank

/-!
# Objects as files in a folder

A store that keeps each object as a file below a root folder. Folders are made as files need them and are never removed;
the root itself is made by the first file, and may even be a file.
-/

namespace RaceAlbum

/-- The files and folders below a root, and the place of the root. -/
structure FileTree where
  files : List (FilePath × Bytes)
  folders : List FilePath
  root : List String
deriving DecidableEq

namespace FileTree

/-- Nothing, not even the root. -/
def emptyAt (root : List String) : FileTree := ⟨[], [], root⟩

/-- Nothing below a root that is used for some time only. -/
def empty : FileTree := emptyAt temporaryRoot

/-- The content of the file at a path. -/
def find? (t : FileTree) (p : FilePath) : Option Bytes := List.lookup p t.files

/-- Whether there is a file at a path. -/
def isFile (t : FileTree) (p : FilePath) : Bool := (t.find? p).isSome

/-- Whether there is a folder at a path. -/
def isFolder (t : FileTree) (p : FilePath) : Bool := t.folders.contains p

/-- Whether the name of the last step of a path is too long. -/
def hasLongName (p : FilePath) : Bool := (p.getLast?.map isLongName).getD false

/-- What stops the walk to the place just above a path, if anything does: the folders on the way are looked at from the
root on. -/
def stopAbove? (t : FileTree) (p : FilePath) : Option FileFault :=
  (FilePath.above p).findSome? fun q =>
    if hasLongName q then some .nameTooLong
    else if t.isFolder q then none
    else if t.isFile q then some .notAFolder
    else some .missing

/-- What stops the walk to a path itself: its length, what lies above it, or the length of its name. -/
def stopAt? (t : FileTree) (p : FilePath) : Option FileFault :=
  if p.isLong t.root then some .nameTooLong
  else match t.stopAbove? p with
    | some f => some f
    | none => if hasLongName p then some .nameTooLong else none

/-- Makes one folder, whose place must be there already. -/
def makeFolder (t : FileTree) (disk : Disk) (p : FilePath) : Except FileFault FileTree :=
  match t.stopAt? p with
  | some f => .error f
  | none =>
    if t.isFolder p || t.isFile p then .error .alreadyThere
    else match disk.folder? p with
      | some f => .error (.disk f)
      | none => .ok { t with folders := t.folders ++ [p] }

/-- Makes a folder unless it is there: a fault where something stands in its way. -/
def ensureFolder (t : FileTree) (disk : Disk) (p : FilePath) : FileTree × Option FileStop :=
  match t.makeFolder disk p with
  | .ok t => (t, none)
  | .error f => if t.isFolder p then (t, none) else (t, some (.failed ⟨f, some p⟩))

/-- Makes the folders of a path, given with its steps reversed, and those above them as far as they are missing, with a number
of calls one inside the other. The tree comes back also where a folder cannot be made, with the folders that were. -/
def makeFolders (t : FileTree) (disk : Disk) : (calls : Nat) → (reversed : List String) → FileTree × Option FileStop
  | 0, _ => (t, some .tooDeep)
  | _ + 1, [] => t.ensureFolder disk []
  | calls + 1, name :: above =>
    let p := (name :: above).reverse
    match t.makeFolder disk p with
    | .ok t => (t, none)
    | .error .missing =>
      match makeFolders t disk calls above with
      | (t, some stop) => (t, some stop)
      | (t, none) => t.ensureFolder disk p
    | .error f => if t.isFolder p then (t, none) else (t, some (.failed ⟨f, some p⟩))

/-- Sets the content of the file at a path: in its place if there is one. -/
def setFile (p : FilePath) (data : Bytes) : List (FilePath × Bytes) → List (FilePath × Bytes)
  | [] => [(p, data)]
  | (q, old) :: rest => if q = p then (p, data) :: rest else (q, old) :: setFile p data rest

/-- Writes a file, whose folder must be there. The file is empty once it is open, and holds what the disk takes after that. -/
def writeFile (t : FileTree) (disk : Disk) (p : FilePath) (data : Bytes) : FileTree × Option FileStop :=
  match t.stopAt? p with
  | some f => (t, some (.failed ⟨f, some p⟩))
  | none =>
    if t.isFolder p then (t, some (.failed ⟨.isAFolder, some p⟩))
    else match disk.opening? with
      | some f => (t, some (.failed ⟨.disk f, some p⟩))
      | none => match disk.cut? with
        | some (n, f) => ({ t with files := setFile p (data.take n) t.files }, some (.failed ⟨.disk f, none⟩))
        | none => ({ t with files := setFile p data t.files }, none)

/-- Writes a file and makes the folders that it needs. -/
def write (t : FileTree) (disk : Disk) (p : FilePath) (data : Bytes) : FileTree × Option FileStop :=
  let made := match p.reverse with
    | [] => (t, none)
    | _ :: above => t.makeFolders disk nestedCallsMax above
  match made with
  | (t, some stop) => (t, some stop)
  | (t, none) => t.writeFile disk p data

/-- Removes a file. A file that is not there is no fault. -/
def remove (t : FileTree) (disk : Disk) (p : FilePath) : Except FileFailure FileTree :=
  match t.stopAt? p with
  | some .missing => .ok t
  | some f => .error ⟨f, some p⟩
  | none =>
    if t.isFolder p then .error ⟨.isAFolder, some p⟩
    else match disk.removal? with
      | some f => .error ⟨.disk f, some p⟩
      | none => .ok { t with files := t.files.filter fun f => f.1 != p }

end FileTree

/-- A store of files: what it holds, and the address under which the files are published. -/
structure FolderStore where
  tree : FileTree
  baseUrl : String
deriving DecidableEq

namespace FolderStore

/-- The name of the store in messages. -/
def service : String := "LocalStorage"

/-- The refusal of a key that leads out of the root. -/
def invalidKey (key : String) : Failure := .refused (.internal "storage.invalid_key" (some [("key", .text key)]))

/-- The refusal of what the file system refuses. -/
def faulty (f : FileFailure) : Failure := .refused (.serviceFailed service (some f.text))

/-- The failure of a step that is stopped. -/
def stopped : FileStop → Failure
  | .failed f => faulty f
  | .tooDeep => .foldersTooDeep

/-- The address of an object. -/
def url (s : FolderStore) (key : String) : String := trimEndText (· == '/') s.baseUrl ++ "/" ++ key

/-- The path that a key leads to. No name in the file system holds a zero byte. -/
def pathOf (s : FolderStore) (key : String) : Except Failure FilePath :=
  if key.toList.contains '\x00' then .error (.misfit .zeroByte)
  else match FilePath.ofKey? s.tree.root key with
    | some p => .ok p
    | none => .error (invalidKey key)

/-- Stores an object. -/
def put (s : FolderStore) (disk : Disk) (key : String) (data : Bytes) : Except Failure Unit × FolderStore :=
  match s.pathOf key with
  | .error f => (.error f, s)
  | .ok p =>
    match s.tree.write disk p data with
    | (tree, none) => (.ok (), { s with tree })
    | (tree, some stop) => (.error (stopped stop), { s with tree })

/-- Removes an object. -/
def remove (s : FolderStore) (disk : Disk) (key : String) : Except Failure Unit × FolderStore :=
  match s.pathOf key with
  | .error f => (.error f, s)
  | .ok p =>
    match s.tree.remove disk p with
    | .ok tree => (.ok (), { s with tree })
    | .error f => (.error (faulty f), s)

end FolderStore

end RaceAlbum
