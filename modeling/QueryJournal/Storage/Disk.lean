import QueryJournal.Failure
import QueryJournal.Text.Utf8

namespace QueryJournal.Storage

open QueryJournal.Utf8 (Bytes)

/-!
The directory of a log as a value. A file keeps its identity while it is renamed or unlinked, so
whoever writes to it goes on writing to the same file. `Obstacles` says what the system refuses
while one operation runs.
-/

/-- What a name stands for. -/
inductive Node where
  | file (identity : Nat) (content : Bytes)
  | directory
  deriving DecidableEq

/-- The names of a directory, each at most once, and what they stand for. -/
abbrev Folder := List (String × Node)

/-- What is found at the path of the directory. -/
inductive Place where
  | missing
  | occupied
  | folder (nodes : Folder)
  deriving DecidableEq

/-- The directory of a log: what is found at its path, a directory that was moved away from there,
and the identity of the next file. -/
structure Disk where
  place : Place := .missing
  aside : Option Folder := none
  nextIdentity : Nat := 0
  deriving DecidableEq, Inhabited

/-- What the system refuses during one operation: to make a file, to let a file grow past a
length, to take over what was written to its end, to make it durable during the operation or when a
file is closed, and to remove certain names. -/
structure Obstacles where
  refusesCreation : Bool := false
  growthLimit : Option Nat := none
  refusesFlush : Bool := false
  refusesSync : Bool := false
  refusesLastSync : Bool := false
  refusesRemoval : String → Bool := fun _ => false

namespace Obstacles

/-- Nothing is refused. -/
def none : Obstacles :=
  {}

/-- Whether a file of one length cannot be given another one. Cutting it off is never refused. -/
def refusesResize (obstacles : Obstacles) (before after : Nat) : Bool :=
  before < after && obstacles.growthLimit.any (· < after)

end Obstacles

namespace Folder

def find? (folder : Folder) (name : String) : Option Node :=
  folder.lookup name

/-- The folder without a name. -/
def erase (folder : Folder) (name : String) : Folder :=
  folder.filter fun entry => entry.1 != name

def modify (folder : Folder) (identity : Nat) (change : Bytes → Bytes) : Folder :=
  folder.map fun entry =>
    match entry.2 with
    | .file owner content =>
      if owner = identity then (entry.1, .file owner (change content)) else entry
    | .directory => entry

def names (folder : Folder) : List String :=
  folder.map Prod.fst

end Folder

namespace Disk

/-- The names in the directory, of which a missing one has none. -/
def list (disk : Disk) : Except Failure (List String) :=
  match disk.place with
  | .missing => .ok []
  | .occupied => .error (.system "not a directory")
  | .folder nodes => .ok (Folder.names nodes)

def find? (disk : Disk) (name : String) : Option Node :=
  match disk.place with
  | .folder nodes => Folder.find? nodes name
  | _ => none

def content? (disk : Disk) (name : String) : Option Bytes :=
  match disk.find? name with
  | some (.file _ content) => some content
  | _ => none

def directorySize : Nat := 4096

def size? (disk : Disk) (name : String) : Option Nat :=
  (disk.find? name).map fun
    | .file _ content => content.length
    | .directory => directorySize

def folder? (disk : Disk) : Option Folder :=
  match disk.place with
  | .missing => some []
  | .occupied => none
  | .folder nodes => some nodes

/-- Makes a file, and the directory if it is missing, and answers the identity of the file. A name
that is taken is refused. -/
def create (obstacles : Obstacles) (disk : Disk) (name : String) (content : Bytes) :
    Except Failure Nat × Disk :=
  match disk.folder? with
  | none => (.error (.system "not a directory"), disk)
  | some nodes =>
    let disk := { disk with place := .folder nodes }
    if obstacles.refusesCreation then (.error (.system "cannot create file"), disk)
    else
      match Folder.find? nodes name with
      | some _ => (.error (.system "file exists"), disk)
      | none =>
        (.ok disk.nextIdentity,
          { disk with
            place := .folder (nodes ++ [(name, .file disk.nextIdentity content)])
            nextIdentity := disk.nextIdentity + 1 })

/-- Changes the content of the file of an identity, wherever its directory is. -/
def modify (disk : Disk) (identity : Nat) (change : Bytes → Bytes) : Disk :=
  { disk with
    place :=
      match disk.place with
      | .folder nodes => .folder (Folder.modify nodes identity change)
      | other => other
    aside := disk.aside.map fun nodes => Folder.modify nodes identity change }

def resized (length : Nat) (content : Bytes) : Bytes :=
  let kept := content.take length
  kept ++ List.replicate (length - kept.length) 0

/-- A content with bytes written over it from a position on. Writing no bytes changes nothing, also
beyond the end. -/
def overwritten (position : Nat) (bytes content : Bytes) : Bytes :=
  if bytes.isEmpty then content
  else resized position content ++ bytes ++ content.drop (position + bytes.length)

/-- Removes a name, which need not be there. -/
def remove (obstacles : Obstacles) (disk : Disk) (name : String) : Except Failure Unit × Disk :=
  match disk.place with
  | .missing => (.ok (), disk)
  | .occupied => (.error (.system "not a directory"), disk)
  | .folder nodes =>
    match Folder.find? nodes name with
    | none => (.ok (), disk)
    | some .directory => (.error (.system "is a directory"), disk)
    | some (.file ..) =>
      if obstacles.refusesRemoval name then (.error (.system "cannot remove file"), disk)
      else (.ok (), { disk with place := .folder (Folder.erase nodes name) })

/-!
### What others do to the directory
-/

/-- Puts a file in the place of the directory, which is moved away. -/
def block (disk : Disk) : Disk :=
  match disk.place with
  | .missing => { disk with place := .occupied }
  | .occupied => disk
  | .folder nodes => { disk with place := .occupied, aside := some nodes }

def unblock (disk : Disk) : Disk :=
  match disk.place with
  | .occupied =>
    { disk with
      place := match disk.aside with
        | some nodes => .folder nodes
        | none => .missing
      aside := none }
  | _ => disk

/-- Writes a whole file, which is made if it is not there. Fails where the directory is not there
or the name stands for a directory. -/
def put? (disk : Disk) (name : String) (content : Bytes) : Option Disk :=
  match disk.place with
  | .folder nodes =>
    match Folder.find? nodes name with
    | some (.file identity _) => some (disk.modify identity fun _ => content)
    | some .directory => none
    | none => some (disk.create .none name content).2
  | _ => none

def extend? (disk : Disk) (name : String) (bytes : Bytes) : Option Disk :=
  match disk.find? name with
  | some (.file identity _) => some (disk.modify identity fun content => content ++ bytes)
  | _ => none

def unlink? (disk : Disk) (name : String) : Option Disk :=
  match disk.find? name with
  | some (.file ..) => some (disk.remove .none name).2
  | _ => none

end Disk

end QueryJournal.Storage
