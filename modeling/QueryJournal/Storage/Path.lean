namespace QueryJournal.Path

/-!
Paths as texts. A path is a sequence of parts with slashes between; empty parts and parts that
stay where they are do not count.
-/

/-- The path of a name in a directory. The empty path is the place where one is. -/
def join (directory name : String) : String :=
  let place := directory.toList
  if place.isEmpty then name
  else if place.getLast? == some '/' then directory ++ name
  else directory ++ "/" ++ name

def isAbsolute (path : List Char) : Bool :=
  path.head? == some '/'

def parts (path : List Char) : List (List Char) :=
  (path.splitOn '/').filter fun part => part != [] && part != ['.']

/-- The name of what a path leads to, unless it leads upwards. -/
def fileName? (path : List Char) : Option (List Char) :=
  (parts path).getLast?.filter (· != ['.', '.'])

def ofParts (absolute : Bool) (parts : List (List Char)) : List Char :=
  (if absolute then ['/'] else []) ++ ['/'].intercalate parts

/-- The paths of the directories on the way to what a path leads to, the longest one first. The
place where a path starts is not among them. -/
def parents (path : List Char) : List (List Char) :=
  let counting := parts path
  ((List.range (counting.length - 1)).map fun dropped =>
    ofParts (isAbsolute path) (counting.take (counting.length - 1 - dropped)))

end QueryJournal.Path
