import QueryJournal.Logging.Setup
import QueryJournal.Storage.Tree

namespace QueryJournal.Inspection

open QueryJournal.Logging (SetupFault)
open QueryJournal.Storage

/-!
What the program finds around it, and what becomes of that when a file of events is begun.
-/

/-- What the program finds around it: the texts of files, directories, a filter of events that is
given from outside, and the directories as they are after a file of events was begun in a
directory. -/
structure Surroundings where
  text? : String → Option String
  directory? : String → Option Disk
  filter : Option String
  afterBeginning : (directory file : String) → Except SetupFault (String → Option Disk)

/-- Begins a file of events. Its directory is made first; where its name leads to another
directory, that one is made as well. -/
def beginFile (tree : Tree) (directory file : String) : Except SetupFault Tree := do
  let tree ← (tree.makeDirectories directory.toList).mapError fun _ => .directory
  match tree.provideFile file.toList with
  | .ok tree => pure tree
  | .error _ =>
    let parent := ((Path.parents file.toList).head?).getD []
    let tree ← (tree.makeDirectories parent).mapError fun fault =>
      .file ("failed to create log directory: " ++ fault.message)
    (tree.provideFile file.toList).mapError fun fault =>
      .file ("failed to create initial log file: " ++ fault.message)

def Surroundings.ofTree (tree : Tree) (filter : Option String) : Surroundings :=
  { text? := tree.text?
    directory? := tree.disk?
    filter
    afterBeginning := fun directory file => (beginFile tree directory file).map Tree.disk? }

end QueryJournal.Inspection
