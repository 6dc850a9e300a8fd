import QueryJournal.Storage.Disk
import QueryJournal.Storage.Path

namespace QueryJournal.Storage

open QueryJournal.Utf8 (Bytes)

/-!
A hierarchy of directories as a value, and the paths that lead through it. A path is followed part
by part, and each part has to start in a directory.
-/

abbrev Location := List (List Char)

/-- What stands at a location. -/
inductive Item where
  | file (content : Bytes)
  | directory
  deriving DecidableEq

/-- A hierarchy of directories: what there is besides the root, and where relative paths start. -/
structure Tree where
  items : List (Location × Item) := []
  current : Location := []
  deriving DecidableEq

/-- Why a path leads nowhere, or why nothing can be made where it leads. -/
inductive PathFault where
  | missing
  | taken
  | notDirectory
  | isDirectory
  | tooLong
  | hasNul
  deriving DecidableEq, Repr

namespace PathFault

def message : PathFault → String
  | .missing => "No such file or directory (os error 2)"
  | .taken => "File exists (os error 17)"
  | .notDirectory => "Not a directory (os error 20)"
  | .isDirectory => "Is a directory (os error 21)"
  | .tooLong => "File name too long (os error 36)"
  | .hasNul => "file name contained an unexpected NUL byte"

end PathFault

namespace Tree

def nameLimit : Nat := 255

def item? (tree : Tree) (location : Location) : Option Item :=
  if location.isEmpty then some .directory else tree.items.lookup location

/-- Follows one part of a path from a location. What it leads to need not be there. -/
def follow (tree : Tree) (location : Location) (part : List Char) : Except PathFault Location :=
  match tree.item? location with
  | none => .error .missing
  | some (.file _) => .error .notDirectory
  | some .directory =>
    if part.isEmpty || part == ['.'] then .ok location
    else if part == ['.', '.'] then .ok location.dropLast
    else if nameLimit < (Utf8.encode part).length then .error .tooLong
    else .ok (location ++ [part])

def locate (tree : Tree) (path : List Char) : Except PathFault Location :=
  if path.contains '\x00' then .error .hasNul
  else if path.isEmpty then .error .missing
  else
    (path.splitOn '/').foldlM tree.follow (if Path.isAbsolute path then [] else tree.current)

def find? (tree : Tree) (path : List Char) : Option Item :=
  (tree.locate path).toOption.bind tree.item?

def text? (tree : Tree) (path : String) : Option String :=
  match tree.find? path.toList with
  | some (.file content) => Utf8.toString? content
  | _ => none

def entries (tree : Tree) (location : Location) : List (String × Item) :=
  tree.items.filterMap fun (place, item) =>
    match place.getLast? with
    | some name => if place.dropLast = location then some (String.ofList name, item) else none
    | none => none

def addEntry (disk : Disk) (name : String) (item : Item) : Disk :=
  match item, disk.place with
  | .file content, _ => (disk.create .none name content).2
  | .directory, .folder nodes =>
    { disk with place := .folder (nodes ++ [(name, .directory)]) }
  | .directory, _ => disk

def disk? (tree : Tree) (path : String) : Option Disk :=
  match tree.locate path.toList with
  | .error _ => none
  | .ok location =>
    if tree.item? location = some .directory then
      some ((tree.entries location).foldl (fun disk entry => addEntry disk entry.1 entry.2)
        { place := .folder [] })
    else none

def add (tree : Tree) (location : Location) (item : Item) : Tree :=
  { tree with items := tree.items ++ [(location, item)] }

/-- Makes a directory in one that is there. Slashes at the end of its path do not count. -/
def makeDirectory (tree : Tree) (path : List Char) : Except PathFault Tree := do
  let bare := (path.reverse.dropWhile (· == '/')).reverse
  let location ← tree.locate (if bare.isEmpty then path else bare)
  match tree.item? location with
  | some _ => throw .taken
  | none => pure (tree.add location .directory)

def provideDirectory (tree : Tree) (path : List Char) : Except PathFault Tree :=
  match tree.makeDirectory path with
  | .ok tree => .ok tree
  | .error fault => if tree.find? path = some .directory then .ok tree else .error fault

/-- Makes the first one of some directories after those that follow it and that it needs. -/
def provideAll (tree : Tree) : List (List Char) → Except PathFault Tree
  | [] => .ok tree
  | path :: parents =>
    match tree.provideDirectory path with
    | .error .missing => do (← tree.provideAll parents).provideDirectory path
    | outcome => outcome

/-- Makes a directory and those on the way to it, as far as they are not there. -/
def makeDirectories (tree : Tree) (path : List Char) : Except PathFault Tree :=
  if (Path.parts path).isEmpty then .ok tree else tree.provideAll (path :: Path.parents path)

def provideFile (tree : Tree) (path : List Char) : Except PathFault Tree := do
  let location ← tree.locate path
  match tree.item? location with
  | some (.file _) => pure tree
  | some .directory => throw .isDirectory
  | none => pure (tree.add location (.file []))

end Tree

end QueryJournal.Storage
