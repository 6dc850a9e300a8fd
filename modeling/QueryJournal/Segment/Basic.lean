import QueryJournal.Storage.Path
import QueryJournal.Time.Text

namespace QueryJournal

open QueryJournal.Text (strip? stripEnd?)
open QueryJournal.Time (Instant)

/-!
The files of a log. A segment is known by its number, which orders the segments by age; the time
in its name only informs.
-/

/-- A file of a log. -/
structure Segment where
  number : Nat
  created : Instant
  path : String
  deriving DecidableEq

namespace Segment

def nameStart : String := "querylog-"

def nameEnd : String := ".jsonl"

def fileName (number : Nat) (created : Instant) : String :=
  String.ofList (nameStart.toList ++ Numeral.padded 8 10 number ++ ['-'] ++
    Time.stampText created ++ nameEnd.toList)

/-- A new segment in a directory. Its time is cut off to the second. -/
def inDirectory (directory : String) (number : Nat) (time : Instant) : Segment :=
  let created := time.truncated
  { number, created, path := Path.join directory (fileName number created) }

/-- Reads the name of a segment: its number and its time. -/
def parseName? (name : List Char) : Option (Nat × Instant) := do
  let stem ← (strip? nameStart.toList name).bind (stripEnd? nameEnd.toList)
  match stem.dropWhile (· != '-') with
  | _ :: stamp =>
    pure (← Numeral.word? (stem.takeWhile (· != '-')), ← Time.parseStamp? stamp)
  | [] => none

def parse? (path : String) : Option Segment := do
  let name ← Path.fileName? path.toList
  let (number, created) ← parseName? name
  pure { number, created, path }

def name (segment : Segment) : String :=
  String.ofList ((Path.fileName? segment.path.toList).getD [])

def isCandidate (name : String) : Bool :=
  (strip? nameStart.toList name.toList).isSome

def sorted (segments : List Segment) : List Segment :=
  segments.mergeSort fun left right => decide (left.number ≤ right.number)

/-- The segments among the names in a directory, oldest first. -/
def discover (directory : String) (names : List String) : List Segment :=
  sorted ((names.filter isCandidate).filterMap fun name => parse? (Path.join directory name))

def unrecognized (directory : String) (names : List String) : List String :=
  names.filter fun name => isCandidate name && (parse? (Path.join directory name)).isNone

end Segment

end QueryJournal
