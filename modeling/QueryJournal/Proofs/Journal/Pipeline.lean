import QueryJournal.Proofs.Journal.Contents
import QueryJournal.Proofs.Journal.Ledger

namespace QueryJournal

open QueryJournal.Backward (maxLineLength)
open QueryJournal.Storage
open QueryJournal.Time (Instant)

/-!
A log between the steps that it takes. One flush, rotation or clear is under way at a time, and
entries come in between any two of its steps. Searches look at the log between steps as well.
-/

/-- How far a flush has come with its batch: it is taken from the buffer, a segment has its number,
the file of the segment is made, the batch is being written, all of it has landed, or it has
failed. Or how many segments are still to be removed by a clear. -/
inductive Phase where
  | idle
  | taken (batch : List Entry)
  | numbered (batch : List Entry) (segment : Segment)
  | made (batch : List Entry)
  | writing (batch : List Entry)
  | landed (batch : List Entry)
  | failed (batch : List Entry)
  | clearing (segments : List Segment)

/-- A log, its directory and what is under way. -/
structure Pipeline where
  journal : Journal
  disk : Disk
  phase : Phase

namespace Pipeline

/-- One step, and what it means for the ledger. The lines of entries are no longer than what is
put together when they are read. -/
inductive Step : Pipeline → Ledger.Event → Pipeline → Prop where
  /-- An entry comes in, whatever is under way. -/
  | append (state : Pipeline) (entry : Entry) (short : entry.lineBody.length ≤ maxLineLength) :
      Step state (.appended entry)
        { state with
          journal := { state.journal with buffer := (state.journal.buffer.append entry).2 } }
  /-- A flush takes its batch. -/
  | take {journal : Journal} {disk : Disk} :
      Step { journal, disk, phase := .idle } .taken
        { journal := { journal with buffer := journal.buffer.pending.2 }
          disk
          phase := .taken journal.buffer.pending.1 }
  /-- There is nothing to be written. -/
  | leave {journal : Journal} {disk : Disk} :
      Step { journal, disk, phase := .taken [] } .silent { journal, disk, phase := .idle }
  /-- A segment is active. -/
  | resume {journal : Journal} {disk : Disk} {batch : List Entry} {writer : SegmentWriter}
      (present : journal.writer = some writer) :
      Step { journal, disk, phase := .taken batch } .silent
        { journal, disk, phase := .writing batch }
  /-- No segment is active, so one gets a number. -/
  | number {journal : Journal} {disk : Disk} {batch : List Entry} (now : Instant)
      (absent : journal.writer = none) :
      Step { journal, disk, phase := .taken batch } .silent
        { journal :=
            { journal with
              catalog := (journal.catalog.allocate journal.policy.directory now).2 }
          disk
          phase := .numbered batch (journal.catalog.allocate journal.policy.directory now).1 }
  /-- The file of the segment is made. -/
  | make {journal : Journal} {disk after : Disk} {batch : List Entry} {segment : Segment}
      {writer : SegmentWriter} (obstacles : Obstacles)
      (made : SegmentWriter.create obstacles disk segment false = (.ok writer, after)) :
      Step { journal, disk, phase := .numbered batch segment } .silent
        { journal := { journal with writer := some writer }, disk := after, phase := .made batch }
  /-- The file of the segment cannot be made. -/
  | refuse {journal : Journal} {disk after : Disk} {batch : List Entry} {segment : Segment}
      {failure : Failure} (obstacles : Obstacles)
      (refused : SegmentWriter.create obstacles disk segment false = (.error failure, after)) :
      Step { journal, disk, phase := .numbered batch segment } .silent
        { journal, disk := after, phase := .failed batch }
  /-- The segment becomes the active one. -/
  | activate {journal : Journal} {disk : Disk} {batch : List Entry} {writer : SegmentWriter}
      (present : journal.writer = some writer) :
      Step { journal, disk, phase := .made batch } .silent
        { journal := { journal with catalog := journal.catalog.activate writer.segment }
          disk
          phase := .writing batch }
  /-- The file grows by any part of the batch. -/
  | grow {journal : Journal} {disk : Disk} {batch : List Entry} {writer : SegmentWriter}
      (obstacles : Obstacles) (present : journal.writer = some writer) :
      Step { journal, disk, phase := .writing batch } .silent
        { journal
          disk := writer.writePart obstacles disk (Entry.lines batch)
          phase := .writing batch }
  /-- The whole batch is written. -/
  | land {journal : Journal} {disk : Disk} {batch : List Entry} {writer : SegmentWriter}
      (obstacles : Obstacles) (present : journal.writer = some writer)
      (whole : writer.succeeds obstacles (Entry.lines batch) = true) :
      Step { journal, disk, phase := .writing batch } .silent
        { journal :=
            { journal with
              writer := some
                { writer with length := writer.length + (Entry.lines batch).length } }
          disk := writer.writePart obstacles disk (Entry.lines batch)
          phase := .landed batch }
  /-- Writing fails, and the file is cut back to what counts. -/
  | cutBack {journal : Journal} {disk : Disk} {batch : List Entry} {writer : SegmentWriter}
      (obstacles : Obstacles) (present : journal.writer = some writer) :
      Step { journal, disk, phase := .writing batch } .silent
        { journal, disk := writer.rollBack obstacles disk, phase := .failed batch }
  /-- The batch leaves the memory and counts in the file. -/
  | commit {journal : Journal} {disk : Disk} {batch : List Entry} {writer : SegmentWriter}
      (present : journal.writer = some writer) :
      Step { journal, disk, phase := .landed batch } .committed
        { journal :=
            { journal with
              buffer := journal.buffer.commit
              catalog := journal.catalog.commit writer.length }
          disk
          phase := .idle }
  /-- The batch stays in memory. -/
  | abort {journal : Journal} {disk : Disk} {batch : List Entry} :
      Step { journal, disk, phase := .failed batch } .aborted
        { journal :=
            { journal with
              buffer := journal.buffer.abort
              failedFlushes := journal.failedFlushes + 1 }
          disk
          phase := .idle }
  /-- The active segment is closed. -/
  | close {journal : Journal} {disk : Disk} :
      Step { journal, disk, phase := .idle } .silent
        { journal := { journal with catalog := journal.catalog.closeActive.2, writer := none }
          disk
          phase := .idle }
  /-- Everything in memory is dropped and all segments are given up. -/
  | clear {journal : Journal} {disk : Disk} :
      Step { journal, disk, phase := .idle } .cleared
        { journal :=
            { journal with
              buffer := journal.buffer.clear
              catalog := journal.catalog.takeAll.2
              writer := none }
          disk
          phase := .clearing journal.catalog.takeAll.1 }
  /-- A segment that was given up is removed, unless the system refuses. -/
  | remove {journal : Journal} {disk : Disk} {segment : Segment} {segments : List Segment}
      (obstacles : Obstacles) :
      Step { journal, disk, phase := .clearing (segment :: segments) } .silent
        { journal
          disk := (disk.remove obstacles segment.name).2
          phase := .clearing segments }
  /-- All segments that were given up had their turn. -/
  | finish {journal : Journal} {disk : Disk} :
      Step { journal, disk, phase := .clearing [] } .silent { journal, disk, phase := .idle }

/-- Steps one after another, with the events in their order. -/
inductive Run : Pipeline → List Ledger.Event → Pipeline → Prop where
  | refl (state : Pipeline) : Run state [] state
  | step {first middle last : Pipeline} {events : List Ledger.Event} {event : Ledger.Event} :
      Run first events middle → Step middle event last → Run first (events ++ [event]) last

theorem Run.single {first last : Pipeline} {event : Ledger.Event} (step : Step first event last) :
    Run first [event] last :=
  .step (.refl first) step

end Pipeline

end QueryJournal
