import RollupFees.Dialogue
import RollupFees.Failure
import RollupFees.Ledger

/-!
# The data directory

Snapshots live in a directory of their own. For each side there is a snapshot file and, while a
commit is under way, a draft beside it.

## Main definitions

* `FileName` : the files that the store uses
* `FileRequest`, `FileRequest.Reply` : what the store asks of the file system
* `Disk` : the contents of the directory
* `Disk.honest` : the file system that does what it is asked, where that is possible
-/

namespace RollupFees

/-- The files that the store uses: the snapshot of a side, and its draft. -/
inductive FileName
  | snapshot (side : Side)
  | draft (side : Side)
deriving DecidableEq, Repr

/-- The name of a file in the directory. -/
def FileName.text : FileName → String
  | .snapshot side => side.fileName
  | .draft side => side.fileName ++ ".tmp"

/-- What the store asks of the file system. -/
inductive FileRequest
  | read (name : FileName)
  | makeDirectory
  | create (name : FileName)
  | write (name : FileName) (bytes : ByteArray)
  | flush (name : FileName)
  | rename (source target : FileName)
  | remove (name : FileName)
  | openDirectory
  | flushDirectory

/-- What may come back. Reading a file that does not exist is no fault. -/
abbrev FileRequest.Reply : FileRequest → Type
  | .read _ => Except StorageFault (Option ByteArray)
  | _ => Except StorageFault Unit

/-- What may stand under a name: a file, or a directory in its place. -/
inductive DiskEntry
  | file (bytes : ByteArray)
  | directory

/-- Whether the directory is there, or a plain file stands in its place. -/
inductive DirectoryState
  | missing
  | blocked
  | present
deriving DecidableEq, Repr

/-- The contents of the data directory. -/
structure Disk where
  directory : DirectoryState
  entries : FileName → Option DiskEntry

namespace Disk

/-- A directory without files. -/
def empty : Disk := ⟨.present, fun _ => none⟩

/-- The place of a directory that has not been made. -/
def bare : Disk := ⟨.missing, fun _ => none⟩

/-- The disk with another entry under a name. -/
def put (d : Disk) (name : FileName) (entry : Option DiskEntry) : Disk :=
  ⟨d.directory, fun n => if n = name then entry else d.entries n⟩

/-- Every name of a file, in the order of the names. -/
def names : List FileName := [.snapshot .l1, .draft .l1, .snapshot .l2, .draft .l2]

/-- The names in the directory, sorted. -/
def list (d : Disk) : List FileName := names.filter fun n => (d.entries n).isSome

@[simp] theorem entries_put (d : Disk) (name other : FileName) (entry : Option DiskEntry) :
    (d.put name entry).entries other = if other = name then entry else d.entries other := rfl

@[simp] theorem directory_put (d : Disk) (name : FileName) (entry : Option DiskEntry) :
    (d.put name entry).directory = d.directory := rfl

/-- Reads a file. -/
def read (d : Disk) (name : FileName) : Except StorageFault (Option ByteArray) :=
  match d.directory with
  | .missing => .ok none
  | .blocked => .error .refused
  | .present =>
    match d.entries name with
    | none => .ok none
    | some (.file bytes) => .ok (some bytes)
    | some .directory => .error .refused

/-- Puts a file under a name, which a directory must not have taken. -/
def store (d : Disk) (name : FileName) (bytes : ByteArray) : Except StorageFault Unit × Disk :=
  match d.directory, d.entries name with
  | .present, some .directory => (.error .refused, d)
  | .present, _ => (.ok (), d.put name (some (.file bytes)))
  | _, _ => (.error .refused, d)

/-- Moves a file to another name, replacing a file there. -/
def move (d : Disk) (source target : FileName) : Except StorageFault Unit × Disk :=
  match d.entries source, d.entries target with
  | some (.file _), some .directory => (.error .refused, d)
  | some (.file bytes), _ => (.ok (), (d.put source none).put target (some (.file bytes)))
  | _, _ => (.error .refused, d)

/-- A file system that does what it is asked, where that is possible. -/
def answer : (q : FileRequest) → Disk → q.Reply × Disk
  | .read name, d => (d.read name, d)
  | .makeDirectory, d =>
    match d.directory with
    | .blocked => (.error .refused, d)
    | _ => (.ok (), { d with directory := .present })
  | .create name, d => d.store name .empty
  | .write name bytes, d => d.store name bytes
  | .flush _, d => (.ok (), d)
  | .rename source target, d => d.move source target
  | .remove name, d => (.ok (), d.put name none)
  | .openDirectory, d => (if d.directory = .present then .ok () else .error .refused, d)
  | .flushDirectory, d => (.ok (), d)

/-- The file system as surroundings of a dialogue. -/
def honest : Answerer FileRequest.Reply Disk := ⟨answer⟩

end Disk
end RollupFees
