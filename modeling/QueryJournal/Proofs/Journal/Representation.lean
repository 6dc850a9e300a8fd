import QueryJournal.Proofs.Journal.Attachment

namespace QueryJournal.Archive

open QueryJournal.Segment (IsTidy found)
open QueryJournal.Storage

/-!
The index, the writer, the memory and the files of a log say the same between operations, whatever
failed before.
-/

variable {directory : String} {start : Disk} {occasion : Occasion} {occasions : List Occasion}
  {archive before after : Archive} {policy : Policy} {journal : Journal} {disk : Disk}

/-!
### The memory
-/

theorem inFlight_add (idle : journal.buffer.inFlight = 0) (occasion : Occasion)
    (exchange : Exchange) : (journal.add occasion.now exchange).2.buffer.inFlight = 0 := by
  rw [Journal.add]
  split
  · exact idle
  · split
    · exact idle
    · exact (Buffer.evict_inFlight _).trans idle

theorem inFlight_flushBuffer (idle : journal.buffer.inFlight = 0) (occasion : Occasion)
    (force : Bool) (disk : Disk) :
    (journal.flushBuffer occasion force disk).journal.buffer.inFlight = 0 := by
  rw [Journal.flushBuffer]
  split
  · exact idle
  · dsimp only
    split
    · rename_i empty
      simpa [Buffer.pending] using empty
    · split <;> rfl

theorem inFlight_serveFlush (idle : journal.buffer.inFlight = 0) (occasion : Occasion)
    (force : Bool) (disk : Disk) :
    (journal.serveFlush occasion force disk).journal.buffer.inFlight = 0 := by
  rw [Journal.serveFlush]
  split
  · exact inFlight_flushBuffer idle occasion force disk
  · exact idle

theorem inFlight_serveRotation (idle : journal.buffer.inFlight = 0) (occasion : Occasion)
    (disk : Disk) : (journal.serveRotation occasion disk).journal.buffer.inFlight = 0 := by
  have flushed := inFlight_flushBuffer idle occasion true disk
  rw [Journal.serveRotation]
  split
  · dsimp only
    split
    · exact flushed
    · split <;> exact flushed
  · exact idle

theorem inFlight_close (idle : journal.buffer.inFlight = 0) (occasion : Occasion) (disk : Disk) :
    (journal.close occasion disk).journal.buffer.inFlight = 0 := by
  have flushed := @inFlight_serveFlush { journal with closed := true } idle occasion true disk
  rw [Journal.close]
  split
  · exact idle
  · exact flushed

theorem inFlight_whileOpen {α : Type} {operation : Outcome α} (idle : journal.buffer.inFlight = 0)
    (after : operation.journal.buffer.inFlight = 0) :
    (journal.whileOpen disk operation).journal.buffer.inFlight = 0 := by
  rw [Journal.whileOpen]
  split
  · exact idle
  · exact after

theorem inFlight_perform (idle : archive.journal.buffer.inFlight = 0) {deed : Deed}
    (still : ∀ policy, deed.operation ≠ .reopen policy) :
    (archive.perform deed).journal.buffer.inFlight = 0 := by
  obtain ⟨journal, disk⟩ := archive
  obtain ⟨occasion, operation⟩ := deed
  cases operation with
  | add exchange => exact inFlight_add idle occasion exchange
  | flush force => exact inFlight_whileOpen idle (inFlight_serveFlush idle occasion force disk)
  | rotate => exact inFlight_whileOpen idle (inFlight_serveRotation idle occasion disk)
  | clear => exact inFlight_whileOpen idle rfl
  | flushBehind => exact inFlight_serveFlush idle occasion false disk
  | rotateBehind => exact inFlight_serveRotation idle occasion disk
  | reopen policy => exact absurd rfl (still policy)

theorem inFlight_openOn {obstacles : Obstacles} (files : policy.fileEnabled = true)
    (opened : Journal.openOn policy obstacles start = (.ok journal, disk)) :
    journal.buffer.inFlight = 0 := by
  obtain ⟨_, rfl, _⟩ := openOn_ok files opened
  rfl

theorem Reached.inFlight (reached : Reached directory start occasions archive) :
    archive.journal.buffer.inFlight = 0 := by
  induction reached with
  | opened files _ opened => exact inFlight_openOn files opened
  | performed _ still ih => exact inFlight_perform ih still
  | closed _ ih => exact inFlight_close ih _ _
  | reopened _ files _ opened _ => exact inFlight_openOn files opened

/-!
### Every run
-/

/-- The index is in order, and its active segment is the one that is written to. -/
structure Consistent (directory : String) (start : Disk) (archive : Archive) : Prop where
  ordered : Ordered directory archive
  coherent : Coherent start archive

theorem Consistent.move (consistent : Consistent directory start before)
    (move : Move occasion before after) : Consistent directory start after :=
  { ordered := consistent.ordered.move consistent.coherent.inactive move
    coherent := consistent.coherent.move move }

theorem Consistent.perform (consistent : Consistent directory start archive) {deed : Deed}
    (still : ∀ policy, deed.operation ≠ .reopen policy) :
    Consistent directory start (archive.perform deed) := by
  rcases perform_cases archive still with moves | cleared
  · exact moves.preserve .move consistent
  · rw [cleared]
    exact
      { ordered := consistent.ordered.clear deed.occasion
        coherent := consistent.coherent.clear deed.occasion }

/-- A log that is opened starts out consistent, whatever log was on the directory before. -/
theorem Consistent.openOn {later : Disk} (tidy : IsTidy disk)
    (distinct : ((found directory disk).map Segment.number).Nodup)
    (known : start.nextIdentity ≤ disk.nextIdentity)
    (origins : ∀ name identity content, disk.find? name = some (.file identity content) →
      identity < disk.nextIdentity ∧ Origin start name identity content)
    (files : policy.fileEnabled = true) (same : policy.directory = directory)
    (opened : Journal.openOn policy occasion.obstacles disk = (.ok journal, later)) :
    Consistent directory start { journal, disk := later } := by
  subst same
  have first : Consistent policy.directory start
      { journal := Journal.openedOn policy disk, disk } :=
    { ordered := .openedOn tidy distinct
      coherent := .openedOn known origins }
  exact first.move (move_openOn files opened)

theorem Reached.consistent (tidy : IsTidy start) (numbered : start.Numbered)
    (distinct : ((found directory start).map Segment.number).Nodup)
    (reached : Reached directory start occasions archive) :
    Consistent directory start archive := by
  induction reached with
  | opened files same opened =>
      exact .openOn tidy distinct (Nat.le_refl _) (origin_start numbered) files same opened
  | performed _ still ih => exact ih.perform still
  | closed _ ih => exact (moves_close _ _ _).preserve .move ih
  | reopened _ files same opened ih =>
      obtain ⟨ordered, coherent⟩ := ih
      exact .openOn ordered.tidy ordered.distinct coherent.later coherent.files files same opened

/-- What the parts of a log say of each other between operations, where `born` is the identity of
the first file that could be made. -/
structure Represented (born : Nat) (archive : Archive) : Prop where
  /-- There is a writer if there is an active segment, and it writes to that one. -/
  writer : archive.journal.writer.map SegmentWriter.segment =
    archive.journal.catalog.active.map ActiveSegment.segment
  /-- The writer and the index know how long the active file is. -/
  length : ∀ writer ∈ archive.journal.writer, ∀ active ∈ archive.journal.catalog.active,
    active.committed = writer.length ∧ ∃ content,
      archive.disk.find? active.segment.name = some (.file writer.identity content) ∧
        content.length = writer.length
  lines : ∀ name identity content, born ≤ identity →
    archive.disk.find? name = some (.file identity content) →
      ∃ entries, content = Entry.lines entries
  idle : archive.journal.buffer.inFlight = 0
  ascending : archive.journal.catalog.closed.Pairwise fun older newer =>
    older.number < newer.number
  newest : ∀ active ∈ archive.journal.catalog.active, ∀ segment ∈ archive.journal.catalog.closed,
    segment.number < active.segment.number
  below : ∀ status ∈ archive.journal.segments,
    status.segment.number < archive.journal.catalog.nextNumber
  /-- A search reads strictly newer segments before older ones. -/
  plan : archive.journal.catalog.scanPlan.Pairwise fun newer older =>
    older.segment.number < newer.segment.number
  listed : archive.journal.catalog.scanPlan.map ScanTarget.segment =
    (archive.journal.segments.map SegmentStatus.segment).reverse

theorem Coherent.represents (coherent : Coherent start archive) :
    archive.journal.writer.map SegmentWriter.segment =
        archive.journal.catalog.active.map ActiveSegment.segment ∧
      ∀ writer ∈ archive.journal.writer, ∀ active ∈ archive.journal.catalog.active,
        active.committed = writer.length ∧ ∃ content,
          archive.disk.find? active.segment.name = some (.file writer.identity content) ∧
            content.length = writer.length := by
  cases present : archive.journal.writer with
  | none =>
      rw [coherent.inactive present]
      exact ⟨rfl, fun _ absent => absurd absent (Option.not_mem_none _)⟩
  | some writer =>
      obtain ⟨active, there, attached⟩ := coherent.active_of_writer present
      rw [there]
      refine ⟨congrArg some attached.same, ?_⟩
      rintro _ ⟨rfl⟩ _ ⟨rfl⟩
      obtain ⟨content, placed⟩ := attached.placed
      exact ⟨attached.committed, content, attached.same ▸ placed,
        attached.length _ content placed⟩

/-- Whatever is done with a log, and whatever of it fails, between operations the writer, the index,
the memory and the files agree: the writer is that of the active segment, the length that counts is
that of its file, and files hold whole lines only. No batch is under way, and the numbers of the
segments ascend, so a search reads what is listed and the newest first. -/
theorem reached_represented (tidy : IsTidy start) (numbered : start.Numbered)
    (distinct : ((found directory start).map Segment.number).Nodup)
    (reached : Reached directory start occasions archive) :
    Represented start.nextIdentity archive := by
  obtain ⟨ordered, coherent⟩ := reached.consistent tidy numbered distinct
  obtain ⟨writer, length⟩ := coherent.represents
  have listed := archive.journal.catalog.map_segment_statuses
  have plan := archive.journal.catalog.map_segment_scanPlan
  have ascending := ordered.ascending
  rw [Journal.held, Catalog.takeAll, List.pairwise_append] at ascending
  refine
    { writer
      length
      lines := ?_
      idle := reached.inFlight
      ascending := ascending.1
      newest := ?_
      below := ?_
      plan := ?_
      listed := ?_ }
  · intro name identity content own placed
    cases (coherent.files name identity content placed).2 with
    | found old _ => exact absurd own (Nat.not_le.mpr old)
    | made _ entries lines => exact ⟨entries, lines⟩
  · intro active there segment member
    refine ascending.2.2 segment member active.segment ?_
    rw [Option.mem_def.mp there]
    exact List.mem_singleton_self _
  · intro status member
    have held : status.segment ∈ archive.journal.held := by
      rw [Journal.held, ← listed]
      exact List.mem_map_of_mem member
    exact ordered.below status.segment held
  · have reversed := List.pairwise_reverse.mpr ordered.ascending
    rw [Journal.held, ← plan, List.pairwise_map] at reversed
    exact reversed
  · rw [plan, Journal.segments, listed]

/-- A record cannot be written to its end at first, and then it is. -/
def secondFlushDeeds : List Deed :=
  [{ occasion := { now := default }, operation := .add { question := default, client := default } },
    { occasion := { now := default, obstacles := { growthLimit := some 3 } }
      operation := .flush true },
    { occasion := { now := default }, operation := .flush true }]

theorem reached_represented_second_flush :
    Represented 0
        (performAll { journal := (Pipeline.fresh plainPolicy).journal, disk := {} }
          secondFlushDeeds) ∧
      (performAll { journal := (Pipeline.fresh plainPolicy).journal, disk := {} }
          secondFlushDeeds).journal.failedFlushes = 1 ∧
        (performAll { journal := (Pipeline.fresh plainPolicy).journal, disk := {} }
          secondFlushDeeds).journal.writer.isSome = true := by
  have opened : Journal.openOn plainPolicy .none {} =
      (.ok (Pipeline.fresh plainPolicy).journal, {}) := by
    rw [← openedOn_missing]
    exact Journal.openOn_eq retains_plainPolicy .none rfl
  have first : Reached plainPolicy.directory {} [{ now := default }]
      { journal := (Pipeline.fresh plainPolicy).journal, disk := {} } :=
    .opened rfl rfl opened
  have reached : Reached plainPolicy.directory {} _
      (performAll { journal := (Pipeline.fresh plainPolicy).journal, disk := {} }
        secondFlushDeeds) :=
    first.performAll (by simp [secondFlushDeeds])
  refine ⟨?_, by decide +kernel, by decide +kernel⟩
  exact reached_represented
    (by simp [IsTidy, Disk.names, Disk.folder?, Folder.names])
    (by simp [Disk.Numbered, Disk.find?])
    (by simp [found, Segment.discover, Segment.sorted, Disk.names, Disk.folder?, Folder.names])
    reached

end QueryJournal.Archive
