import QueryJournal.Journal.Buffer
import QueryJournal.Record.Line
import QueryJournal.Record.Recording
import QueryJournal.Search.Scan
import QueryJournal.Segment.Catalog
import QueryJournal.Segment.Writer

namespace QueryJournal

open QueryJournal.Storage
open QueryJournal.Time (Instant)
open QueryJournal.Utf8 (Bytes)

/-!
The log itself: entries in memory, the index of segments and the writer of the active one. Entries
leave the memory in the same step in which the committed length of the active segment grows, so a
search finds each of them once.
-/

/-- A log. The writer is there while a segment is active. -/
structure Journal where
  policy : Policy
  buffer : Buffer Entry
  catalog : Catalog
  writer : Option SegmentWriter
  closed : Bool
  encodeFailures : Nat
  failedFlushes : Nat

/-- The time at which an operation runs, and what the system refuses while it does. -/
structure Occasion where
  now : Instant
  obstacles : Obstacles := .none

/-- What an operation answers, and the log and its directory after it. -/
structure Outcome (α : Type) where
  answer : Except Failure α
  journal : Journal
  disk : Disk

namespace Journal

/-- Removes the files of segments, and answers the first failure. Later files are removed whatever
happened to earlier ones. -/
def removeAll (obstacles : Obstacles) (disk : Disk) : List Segment → Except Failure Unit × Disk
  | [] => (.ok (), disk)
  | segment :: rest =>
    let (first, disk) := disk.remove obstacles segment.name
    let (others, disk) := removeAll obstacles disk rest
    (match first with
      | .error failure => .error failure
      | .ok () => others, disk)

/-- Opens a log. The segments in its directory are found as closed ones, and those in excess of
what is kept are removed. -/
def openOn (policy : Policy) (obstacles : Obstacles) (disk : Disk) :
    Except Failure Journal × Disk :=
  let found := if policy.fileEnabled then disk.list else .ok []
  match found with
  | .error failure => (.error failure, disk)
  | .ok names =>
    let catalog := Catalog.ofExisting (Segment.discover policy.directory names)
    let (excess, catalog) := catalog.prune policy.keptSegments
    (.ok
      { policy
        buffer := Buffer.new policy.memorySize policy.fileEnabled
        catalog
        writer := none
        closed := false
        encodeFailures := 0
        failedFlushes := 0 }, (removeAll obstacles disk excess).2)

/-- Records an exchange, and answers whether a flush is wanted. A log that is not enabled or that is
closed records nothing; an exchange that cannot be packed is counted and dropped. -/
def add (now : Instant) (journal : Journal) (exchange : Exchange) : Bool × Journal :=
  if !journal.policy.enabled || journal.closed then (false, journal)
  else
    match exchange.record journal.policy.masksClients now with
    | .error _ => (false, { journal with encodeFailures := journal.encodeFailures + 1 })
    | .ok entry =>
      let (appended, buffer) := journal.buffer.append entry
      (appended.flushWanted, { journal with buffer })

/-- The writer of the active segment. Where there is none a segment is made; its number is given
out even if its file cannot be made. -/
def activeWriter (occasion : Occasion) (journal : Journal) (disk : Disk) :
    Except Failure SegmentWriter × Journal × Disk :=
  match journal.writer with
  | some writer => (.ok writer, journal, disk)
  | none =>
    let (segment, catalog) := journal.catalog.allocate journal.policy.directory occasion.now
    let journal := { journal with catalog }
    match SegmentWriter.create occasion.obstacles disk segment false with
    | (.error failure, disk) => (.error failure, journal, disk)
    | (.ok writer, disk) =>
      (.ok writer,
        { journal with catalog := catalog.activate segment, writer := some writer }, disk)

def writeBatch (occasion : Occasion) (journal : Journal) (disk : Disk) (batch : Bytes) :
    Outcome Nat :=
  match journal.activeWriter occasion disk with
  | (.error failure, journal, disk) => { answer := .error failure, journal, disk }
  | (.ok writer, journal, disk) =>
    let (answer, writer, disk) := writer.append occasion.obstacles disk batch
    { answer, journal := { journal with writer := some writer }, disk }

/-- Writes what is buffered, and answers how many entries that were. Unless it is forced, nothing
happens before the buffer has asked for a flush. -/
def flushBuffer (occasion : Occasion) (force : Bool) (journal : Journal) (disk : Disk) :
    Outcome Nat :=
  if !force && !journal.buffer.flushPending then { answer := .ok 0, journal, disk }
  else
    let (batch, buffer) := journal.buffer.pending
    let journal := { journal with buffer }
    if batch.isEmpty then { answer := .ok 0, journal, disk }
    else
      let written := journal.writeBatch occasion disk (batch.flatMap Entry.line)
      let journal := written.journal
      match written.answer with
      | .error failure =>
        { answer := .error failure
          journal :=
            { journal with
              buffer := journal.buffer.abort
              failedFlushes := journal.failedFlushes + 1 }
          disk := written.disk }
      | .ok length =>
        { answer := .ok batch.length
          journal :=
            { journal with
              buffer := journal.buffer.commit
              catalog := journal.catalog.commit length }
          disk := written.disk }

def serveFlush (occasion : Occasion) (force : Bool) (journal : Journal) (disk : Disk) :
    Outcome Nat :=
  if journal.policy.fileEnabled then journal.flushBuffer occasion force disk
  else { answer := .ok 0, journal, disk }

/-- Writes what is buffered, closes the active segment and removes closed ones in excess of what is
kept. If writing fails the active segment stays open. -/
def serveRotation (occasion : Occasion) (journal : Journal) (disk : Disk) : Outcome Unit :=
  if journal.policy.fileEnabled then
    let flushed := journal.flushBuffer occasion true disk
    match flushed.answer with
    | .error failure => { flushed with answer := .error failure }
    | .ok _ =>
      match flushed.journal.writer with
      | none => { flushed with answer := .ok () }
      | some writer =>
        let closed := writer.close occasion.obstacles
        let (_, catalog) := flushed.journal.catalog.closeActive
        let (excess, catalog) := catalog.prune journal.policy.keptSegments
        { answer := closed.map fun _ => ()
          journal := { flushed.journal with catalog, writer := none }
          disk := (removeAll occasion.obstacles flushed.disk excess).2 }
  else { answer := .ok (), journal, disk }

def whileOpen {α : Type} (journal : Journal) (disk : Disk) (operation : Outcome α) : Outcome α :=
  if journal.closed then { answer := .error .closed, journal, disk } else operation

def flush (occasion : Occasion) (force : Bool) (journal : Journal) (disk : Disk) : Outcome Nat :=
  journal.whileOpen disk (journal.serveFlush occasion force disk)

/-- Closes the active segment, so that the next flush makes a new one. -/
def rotate (occasion : Occasion) (journal : Journal) (disk : Disk) : Outcome Unit :=
  journal.whileOpen disk (journal.serveRotation occasion disk)

def clear (occasion : Occasion) (journal : Journal) (disk : Disk) : Outcome Unit :=
  journal.whileOpen disk <|
    let (segments, catalog) := journal.catalog.takeAll
    let (answer, disk) := removeAll occasion.obstacles disk segments
    { answer
      journal := { journal with buffer := journal.buffer.clear, catalog, writer := none }
      disk }

/-- Writes what is buffered and lets go of the active segment, which happens even if writing fails.
A second time nothing happens. -/
def close (occasion : Occasion) (journal : Journal) (disk : Disk) : Outcome Unit :=
  if journal.closed then { answer := .ok (), journal, disk }
  else
    let flushed := { journal with closed := true }.serveFlush occasion true disk
    let released : Except Failure Unit :=
      match flushed.journal.writer with
      | none => .ok ()
      | some writer => (writer.close occasion.obstacles).map fun _ => ()
    { answer := match flushed.answer with
        | .error failure => .error failure
        | .ok _ => released
      journal :=
        { flushed.journal with
          catalog := flushed.journal.catalog.closeActive.2
          writer := none }
      disk := flushed.disk }

def reader? (disk : Disk) (target : ScanTarget) : Option Backward.Reader :=
  match disk.find? target.segment.name with
  | none => none
  | some .directory => some .ofUnreadable
  | some (.file _ content) => some (.ofContent content target.limit)

/-- The files that a search reads, newest first. -/
def files (journal : Journal) (disk : Disk) : List (Option Backward.Reader) :=
  if journal.policy.fileEnabled then journal.catalog.scanPlan.map (reader? disk) else []

/-- Finds entries, newest first. -/
def search (clock : Search.Clock) (request : Search.Request) (journal : Journal) (disk : Disk) :
    Except Failure Search.Report :=
  if journal.closed then .error .closed
  else .ok (Search.run clock request journal.buffer.snapshot (journal.files disk))

def admits (journal : Journal) (host : String) : Bool :=
  journal.policy.ignored.admits host

/-- The segments, oldest first. -/
def segments (journal : Journal) : List SegmentStatus :=
  journal.catalog.statuses

def buffered (journal : Journal) : Nat :=
  journal.buffer.entries.size

/-- The number of entries that were lost. Without files an entry that makes room for another one is
not lost but past its retention. -/
def dropped (journal : Journal) : Nat :=
  (if journal.policy.fileEnabled then journal.buffer.dropped else 0) + journal.encodeFailures

end Journal

end QueryJournal
