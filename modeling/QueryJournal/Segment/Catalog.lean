import QueryJournal.Segment.Basic

namespace QueryJournal

open QueryJournal.Time (Instant)

/-!
The index of segments: those that are closed, the one that is written to with the number of its
bytes that count, and the number that the next one gets.
-/

/-- The segment that is written to. -/
structure ActiveSegment where
  segment : Segment
  committed : Nat
  deriving DecidableEq

/-- A segment that a search reads, up to a length if it is still written to. -/
structure ScanTarget where
  segment : Segment
  limit : Option Nat
  deriving DecidableEq

/-- A segment as it is listed, with its committed length if it is still written to. -/
structure SegmentStatus where
  segment : Segment
  active : Bool
  committed : Option Nat
  deriving DecidableEq

/-- The index of segments. The closed ones stand oldest first. -/
structure Catalog where
  closed : List Segment
  active : Option ActiveSegment
  nextNumber : Nat
  deriving DecidableEq

namespace Catalog

def ofExisting (existing : List Segment) : Catalog :=
  let closed := Segment.sorted existing
  { closed
    active := none
    nextNumber := match closed.getLast? with
      | some segment => segment.number + 1
      | none => 1 }

def allocate (catalog : Catalog) (directory : String) (now : Instant) : Segment × Catalog :=
  (Segment.inDirectory directory catalog.nextNumber now,
    { catalog with nextNumber := catalog.nextNumber + 1 })

def activate (catalog : Catalog) (segment : Segment) : Catalog :=
  { catalog with active := some { segment, committed := 0 } }

def commit (catalog : Catalog) (length : Nat) : Catalog :=
  { catalog with active := catalog.active.map fun active => { active with committed := length } }

def closeActive (catalog : Catalog) : Option Segment × Catalog :=
  match catalog.active with
  | none => (none, catalog)
  | some active =>
    (some active.segment,
      { catalog with closed := catalog.closed ++ [active.segment], active := none })

/-- Gives up the oldest closed segments in excess of a number. -/
def prune (catalog : Catalog) (kept : Option Nat) : List Segment × Catalog :=
  match kept with
  | none => ([], catalog)
  | some kept =>
    let excess := catalog.closed.length - kept
    (catalog.closed.take excess, { catalog with closed := catalog.closed.drop excess })

def takeAll (catalog : Catalog) : List Segment × Catalog :=
  (catalog.closed ++ (catalog.active.map ActiveSegment.segment).toList,
    { catalog with closed := [], active := none })

/-- What a search reads, newest first. -/
def scanPlan (catalog : Catalog) : List ScanTarget :=
  (catalog.active.map fun active =>
      { segment := active.segment, limit := some active.committed : ScanTarget }).toList ++
    catalog.closed.reverse.map fun segment => { segment, limit := none }

/-- All segments, oldest first. -/
def statuses (catalog : Catalog) : List SegmentStatus :=
  (catalog.closed.map fun segment =>
      { segment, active := false, committed := none : SegmentStatus }) ++
    (catalog.active.map fun active =>
      { segment := active.segment, active := true
        committed := some active.committed : SegmentStatus }).toList

end Catalog

end QueryJournal
