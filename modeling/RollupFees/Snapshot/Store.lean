import RollupFees.Snapshot.Disk
import RollupFees.Snapshot.Encoding

/-!
# The snapshot store

A snapshot is written to a draft in the same directory, flushed to the disk, and renamed over the
previous snapshot; last the directory is flushed, so that the renaming lasts.

## Main definitions

* `SnapshotStore` : where the snapshots are kept
* `SnapshotStore.load` : the last committed snapshot of a side
* `SnapshotStore.commit` : a new snapshot in the place of the previous one
-/

namespace RollupFees

/-- A data directory. -/
structure SnapshotStore where
  directory : String
deriving DecidableEq, Repr

/-- A dialogue with the file system. -/
abbrev FileTalk (α : Type) := Dialogue FileRequest.Reply α

/-- A dialogue with the file system that stops at the first fault. -/
abbrev FileStep (α : Type) := ExceptT StorageFault FileTalk α

namespace SnapshotStore

/-- The path of the snapshot of a side. -/
def path (s : SnapshotStore) (side : Side) : String := s.directory ++ "/" ++ side.fileName

/-- What is reported of a file that holds no snapshot. -/
def failure (s : SnapshotStore) (side : Side) : Snapshot.Fault → Failure
  | .otherVersion found =>
    .snapshotVersion (s.path side) (min found (2 ^ 32 - 1)) Snapshot.version
  | fault => .corruptSnapshot (s.path side) fault.message

/-- What is made of the contents of a file. A file that does not exist is a side without history;
a file that cannot be understood never is. -/
def interpret (s : SnapshotStore) (side : Side) :
    Except StorageFault (Option ByteArray) → Except Failure (Option Snapshot)
  | .error fault => .error (.storage fault)
  | .ok none => .ok none
  | .ok (some bytes) =>
    match Snapshot.decode side bytes with
    | .ok snapshot => .ok (some snapshot)
    | .error fault => .error (s.failure side fault)

/-- The last committed snapshot of a side. -/
def load (s : SnapshotStore) (side : Side) : FileTalk (Except Failure (Option Snapshot)) :=
  (Dialogue.question (.read (.snapshot side))).bind fun r => .done (s.interpret side r)

/-- One request, which stops at a fault. -/
def request (talk : FileTalk (Except StorageFault Unit)) : FileStep Unit := ExceptT.mk talk

/-- Renames the draft over the snapshot. If that fails the draft is removed, and what comes of the
removal does not matter. -/
def replace (side : Side) : FileStep Unit :=
  ExceptT.mk <|
    (Dialogue.question (FileRequest.rename (.draft side) (.snapshot side))).bind fun r =>
      match (r : Except StorageFault Unit) with
      | .ok _ => .done (.ok ())
      | .error fault =>
        (Dialogue.question (FileRequest.remove (.draft side))).bind fun _ => .done (.error fault)

/-- The steps of a commit, in order. -/
def steps (snapshot : Snapshot) : FileStep Unit := do
  request (Dialogue.question FileRequest.makeDirectory)
  request (Dialogue.question (FileRequest.create (.draft snapshot.side)))
  request (Dialogue.question (FileRequest.write (.draft snapshot.side) snapshot.encode.toUTF8))
  request (Dialogue.question (FileRequest.flush (.draft snapshot.side)))
  replace snapshot.side
  request (Dialogue.question FileRequest.openDirectory)
  request (Dialogue.question FileRequest.flushDirectory)

/-- Puts a snapshot in the place of the previous one of its side. -/
def commit (snapshot : Snapshot) : FileTalk (Except Failure Unit) :=
  (steps snapshot).run.bind fun r => .done (r.mapError .storage)

end SnapshotStore
end RollupFees
