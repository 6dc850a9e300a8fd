import QueryJournal.Proofs.Journal.History

namespace QueryJournal.Archive

open QueryJournal.Storage
open QueryJournal.Utf8 (Bytes)

/-!
What operations do to a log and its directory, move by move. Every operation but a clear is made of
moves, so what each move keeps is kept by all of them.
-/

/-- One change of a log and its directory. -/
inductive Move (occasion : Occasion) : Archive → Archive → Prop where
  /-- The log changes, but neither its index nor its writer. -/
  | remember {before after : Journal} {disk : Disk} (policy : after.policy = before.policy)
      (catalog : after.catalog = before.catalog) (writer : after.writer = before.writer) :
      Move occasion { journal := before, disk } { journal := after, disk }
  /-- A number is given out for a segment whose file cannot be made. -/
  | refuse {journal : Journal} {disk after : Disk} {failure : Failure}
      (absent : journal.writer = none)
      (refused : SegmentWriter.create occasion.obstacles disk
        (journal.catalog.allocate journal.policy.directory occasion.now).1 false =
          (.error failure, after)) :
      Move occasion { journal, disk }
        { journal :=
            { journal with
              catalog := (journal.catalog.allocate journal.policy.directory occasion.now).2 }
          disk := after }
  /-- A new segment becomes the active one. -/
  | make {journal : Journal} {disk after : Disk} {writer : SegmentWriter}
      (absent : journal.writer = none)
      (made : SegmentWriter.create occasion.obstacles disk
        (journal.catalog.allocate journal.policy.directory occasion.now).1 false =
          (.ok writer, after)) :
      Move occasion { journal, disk }
        { journal :=
            { journal with
              catalog :=
                (journal.catalog.allocate journal.policy.directory occasion.now).2.activate
                  (journal.catalog.allocate journal.policy.directory occasion.now).1
              writer := some writer }
          disk := after }
  /-- A batch is written in part and cut off again. -/
  | fail {journal : Journal} {disk : Disk} {writer : SegmentWriter} (batch : Bytes)
      (present : journal.writer = some writer) :
      Move occasion { journal, disk }
        { journal
          disk := writer.rollBack occasion.obstacles
            (writer.writePart occasion.obstacles disk batch) }
  /-- A batch of lines is written and counts. -/
  | land {journal : Journal} {disk : Disk} {writer : SegmentWriter} {entries : List Entry}
      (present : journal.writer = some writer)
      (whole : writer.succeeds occasion.obstacles (Entry.lines entries) = true) :
      Move occasion { journal, disk }
        { journal :=
            { journal with
              catalog := journal.catalog.commit (writer.length + (Entry.lines entries).length)
              writer := some
                { writer with length := writer.length + (Entry.lines entries).length } }
          disk := writer.writePart occasion.obstacles disk (Entry.lines entries) }
  /-- The active segment is closed. -/
  | release {journal : Journal} {disk : Disk} :
      Move occasion { journal, disk }
        { journal := { journal with catalog := journal.catalog.closeActive.2, writer := none }
          disk }
  /-- The oldest segments go, as far as there are too many. -/
  | prune {journal : Journal} {disk : Disk} (released : journal.writer = none) :
      Move occasion { journal, disk }
        { journal :=
            { journal with
              catalog := (journal.catalog.prune journal.policy.keptSegments).2 }
          disk := (Journal.removeAll occasion.obstacles disk
            (journal.catalog.prune journal.policy.keptSegments).1).2 }

def Moves (occasion : Occasion) : Archive → Archive → Prop :=
  Relation.ReflTransGen (Move occasion)

/-- What every move keeps is kept by any number of them. -/
theorem Moves.preserve {occasion : Occasion} {before after : Archive} {Kept : Archive → Prop}
    (moves : Moves occasion before after)
    (step : ∀ {former next : Archive}, Kept former → Move occasion former next → Kept next)
    (kept : Kept before) : Kept after := by
  induction moves with
  | refl => exact kept
  | tail _ move ih => exact step ih move

variable {occasion : Occasion} {journal after : Journal} {disk later : Disk} {failure : Failure}
  {writer : SegmentWriter} {batch : List Entry} {length : Nat}

/-!
### Operations as moves
-/

theorem moves_activeWriter (occasion : Occasion) (journal : Journal) (disk : Disk) :
    Moves occasion { journal, disk }
      { journal := (journal.activeWriter occasion disk).2.1
        disk := (journal.activeWriter occasion disk).2.2 } := by
  rw [Journal.activeWriter]
  split
  · exact .refl
  · rename_i absent
    dsimp only
    split
    · rename_i refused
      exact .single (.refuse absent refused)
    · rename_i made
      exact .single (.make absent made)

theorem writer_activeWriter
    (opened : journal.activeWriter occasion disk = (.ok writer, after, later)) :
    after.writer = some writer :=
  (Pipeline.activeWriter_ok [] opened).1

theorem moves_writeBatch_error
    (refused : (journal.writeBatch occasion disk (Entry.lines batch)).answer = .error failure) :
    Moves occasion { journal, disk }
      (ofOutcome (journal.writeBatch occasion disk (Entry.lines batch))) := by
  have opening := moves_activeWriter occasion journal disk
  cases opened : journal.activeWriter occasion disk with
  | mk answer rest =>
      rw [opened] at opening
      cases answer with
      | error cause => simpa only [Journal.writeBatch, opened, ofOutcome] using opening
      | ok writer =>
          have present := writer_activeWriter opened
          simp only [Journal.writeBatch, opened, SegmentWriter.append, ofOutcome] at refused ⊢
          split at refused
          · simp at refused
          · rename_i short
            rw [if_neg short]
            have failed := opening.tail (.fail (Entry.lines batch) present)
            exact failed.tail (.remember rfl rfl present.symm)

theorem moves_writeBatch_ok
    (written : (journal.writeBatch occasion disk (Entry.lines batch)).answer = .ok length) :
    Moves occasion { journal, disk }
      { journal :=
          { (journal.writeBatch occasion disk (Entry.lines batch)).journal with
            catalog :=
              (journal.writeBatch occasion disk (Entry.lines batch)).journal.catalog.commit length }
        disk := (journal.writeBatch occasion disk (Entry.lines batch)).disk } := by
  have opening := moves_activeWriter occasion journal disk
  cases opened : journal.activeWriter occasion disk with
  | mk answer rest =>
      rw [opened] at opening
      cases answer with
      | error failure => simp [Journal.writeBatch, opened] at written
      | ok writer =>
          have present := writer_activeWriter opened
          simp only [Journal.writeBatch, opened, SegmentWriter.append] at written ⊢
          split at written
          · rename_i whole
            simp only [Except.ok.injEq] at written
            subst written
            rw [if_pos whole]
            exact opening.tail (.land present whole)
          · simp at written

theorem moves_flushBuffer (occasion : Occasion) (force : Bool) (journal : Journal) (disk : Disk) :
    Moves occasion { journal, disk }
      (ofOutcome (journal.flushBuffer occasion force disk)) := by
  have taken : Moves occasion { journal, disk }
      { journal := { journal with buffer := journal.buffer.pending.2 }, disk } :=
    .single (.remember rfl rfl rfl)
  rw [Journal.flushBuffer]
  split
  · exact .refl
  · dsimp only
    split
    · exact taken
    · split
      · rename_i refused
        exact (taken.trans (moves_writeBatch_error refused)).tail (.remember rfl rfl rfl)
      · rename_i written
        exact (taken.trans (moves_writeBatch_ok written)).tail (.remember rfl rfl rfl)

theorem moves_serveFlush (occasion : Occasion) (force : Bool) (journal : Journal) (disk : Disk) :
    Moves occasion { journal, disk }
      (ofOutcome (journal.serveFlush occasion force disk)) := by
  rw [Journal.serveFlush]
  split
  · exact moves_flushBuffer occasion force journal disk
  · exact .refl

theorem moves_serveRotation (occasion : Occasion) (journal : Journal) (disk : Disk) :
    Moves occasion { journal, disk }
      (ofOutcome (journal.serveRotation occasion disk)) := by
  have flushed := moves_flushBuffer occasion true journal disk
  rw [Journal.serveRotation]
  split
  · dsimp only
    split
    · exact flushed
    · split
      · exact flushed
      · rw [← (sameSettings_flushBuffer occasion true journal disk).1]
        exact (flushed.tail .release).tail (.prune rfl)
  · exact .refl

theorem moves_close (occasion : Occasion) (journal : Journal) (disk : Disk) :
    Moves occasion { journal, disk } (ofOutcome (journal.close occasion disk)) := by
  have closed : Moves occasion { journal, disk }
      { journal := { journal with closed := true }, disk } := .single (.remember rfl rfl rfl)
  rw [Journal.close]
  split
  · exact .refl
  · exact (closed.trans (moves_serveFlush occasion true _ disk)).tail .release

theorem moves_add (occasion : Occasion) (exchange : Exchange) (journal : Journal) (disk : Disk) :
    Moves occasion { journal, disk }
      { journal := (journal.add occasion.now exchange).2, disk } := by
  rw [Journal.add]
  split
  · exact .refl
  · split <;> exact .single (.remember rfl rfl rfl)

theorem moves_whileOpen {α : Type} {operation : Outcome α}
    (moves : Moves occasion { journal, disk } (ofOutcome operation)) :
    Moves occasion { journal, disk } (ofOutcome (journal.whileOpen disk operation)) := by
  rw [Journal.whileOpen]
  split
  · exact .refl
  · exact moves

/-- A log that does not give up its directory for another one moves, or everything is cleared. -/
theorem perform_cases (archive : Archive) {deed : Deed}
    (still : ∀ policy, deed.operation ≠ .reopen policy) :
    Moves deed.occasion archive (archive.perform deed) ∨
      archive.perform deed = ofOutcome (archive.journal.clear deed.occasion archive.disk) := by
  obtain ⟨journal, disk⟩ := archive
  obtain ⟨occasion, operation⟩ := deed
  cases operation with
  | add exchange => exact .inl (moves_add occasion exchange journal disk)
  | flush force => exact .inl (moves_whileOpen (moves_serveFlush occasion force journal disk))
  | rotate => exact .inl (moves_whileOpen (moves_serveRotation occasion journal disk))
  | clear => exact .inr rfl
  | flushBehind => exact .inl (moves_serveFlush occasion false journal disk)
  | rotateBehind => exact .inl (moves_serveRotation occasion journal disk)
  | reopen policy => exact absurd rfl (still policy)

/-- A log opens on a usable directory, and the oldest segments go as far as there are too many. -/
theorem openOn_pruned {policy : Policy} (files : policy.fileEnabled = true)
    (usable : disk.IsUsable) (obstacles : Obstacles) :
    Journal.openOn policy obstacles disk =
      (.ok
        { Journal.openedOn policy disk with
          catalog := ((Journal.openedOn policy disk).catalog.prune policy.keptSegments).2 },
        (Journal.removeAll obstacles disk
          ((Journal.openedOn policy disk).catalog.prune policy.keptSegments).1).2) := by
  rw [Journal.openOn, if_pos files, Disk.list_of_isUsable usable]
  rfl

theorem openOn_ok {policy : Policy} {obstacles : Obstacles} (files : policy.fileEnabled = true)
    (opened : Journal.openOn policy obstacles disk = (.ok journal, later)) :
    disk.IsUsable ∧
      journal =
        { Journal.openedOn policy disk with
          catalog := ((Journal.openedOn policy disk).catalog.prune policy.keptSegments).2 } ∧
        later = (Journal.removeAll obstacles disk
          ((Journal.openedOn policy disk).catalog.prune policy.keptSegments).1).2 := by
  have usable : disk.IsUsable := by
    rw [Journal.openOn, if_pos files] at opened
    cases listed : disk.list with
    | error failure => simp [listed] at opened
    | ok names => exact Disk.isUsable_of_list listed
  rw [openOn_pruned files usable, Prod.mk.injEq, Except.ok.injEq] at opened
  exact ⟨usable, opened.1.symm, opened.2.symm⟩

theorem move_openOn {policy : Policy} (files : policy.fileEnabled = true)
    (opened : Journal.openOn policy occasion.obstacles disk = (.ok journal, later)) :
    Move occasion { journal := Journal.openedOn policy disk, disk } { journal, disk := later } := by
  obtain ⟨_, rfl, rfl⟩ := openOn_ok files opened
  exact .prune rfl

/-!
### Runs
-/

/-- A log on one directory as it can be found between operations, and the occasions of all that was
done since the directory was first opened, the last one first. -/
inductive Reached (directory : String) (start : Disk) : List Occasion → Archive → Prop where
  | opened {occasion : Occasion} {policy : Policy} {journal : Journal} {disk : Disk}
      (files : policy.fileEnabled = true) (same : policy.directory = directory)
      (opened : Journal.openOn policy occasion.obstacles start = (.ok journal, disk)) :
      Reached directory start [occasion] { journal, disk }
  | performed {occasions : List Occasion} {archive : Archive} {deed : Deed}
      (earlier : Reached directory start occasions archive)
      (still : ∀ policy, deed.operation ≠ .reopen policy) :
      Reached directory start (deed.occasion :: occasions) (archive.perform deed)
  | closed {occasions : List Occasion} {archive : Archive} {occasion : Occasion}
      (earlier : Reached directory start occasions archive) :
      Reached directory start (occasion :: occasions)
        (ofOutcome (archive.journal.close occasion archive.disk))
  | reopened {occasions : List Occasion} {archive : Archive} {occasion : Occasion}
      {policy : Policy} {journal : Journal} {disk : Disk}
      (earlier : Reached directory start occasions archive) (files : policy.fileEnabled = true)
      (same : policy.directory = directory)
      (opened : Journal.openOn policy occasion.obstacles archive.disk = (.ok journal, disk)) :
      Reached directory start (occasion :: occasions) { journal, disk }

theorem Reached.performAll {directory : String} {start : Disk} {occasions : List Occasion}
    {archive : Archive} {deeds : List Deed} (reached : Reached directory start occasions archive)
    (still : ∀ deed ∈ deeds, ∀ policy, deed.operation ≠ .reopen policy) :
    Reached directory start ((deeds.map Deed.occasion).reverse ++ occasions)
      (archive.performAll deeds) := by
  induction deeds generalizing occasions archive with
  | nil => exact reached
  | cons deed deeds ih =>
      have next := ih (reached.performed (still deed List.mem_cons_self))
        fun later member => still later (List.mem_cons_of_mem deed member)
      rw [List.map_cons, List.reverse_cons, List.append_assoc]
      exact next

/-- A directory with the file of one segment. -/
def loneDisk (content : Bytes) : Disk :=
  { place := .folder [("querylog-00000001-20240102T030405Z.jsonl", .file 0 content)]
    nextIdentity := 1 }

theorem tidy_loneDisk (content : Bytes) : Segment.IsTidy (loneDisk content) := by
  simp [Segment.IsTidy, loneDisk, Disk.names, Disk.folder?, Folder.names]

theorem numbered_loneDisk (content : Bytes) : (loneDisk content).Numbered := by
  intro name identity found placed
  simp only [Disk.find?, loneDisk, Folder.find?, List.lookup_cons, List.lookup_nil] at placed
  split at placed
  · cases placed
    exact Nat.zero_lt_one
  · contradiction

def loneArchive (content : Bytes) : Archive :=
  { journal := Journal.openedOn plainPolicy (loneDisk content), disk := loneDisk content }

theorem openOn_loneDisk (content : Bytes) : Journal.openOn plainPolicy .none (loneDisk content) =
    (.ok (loneArchive content).journal, (loneArchive content).disk) :=
  Journal.openOn_eq retains_plainPolicy .none rfl

end QueryJournal.Archive
