import QueryJournal.Proofs.Journal.Safekeeping

namespace QueryJournal

open QueryJournal.Storage
open QueryJournal.Utf8 (Bytes)

/-!
What the system refuses when a log fails to write. A flush by force fails if the file of a new
segment cannot be made, or if the file of the active one does not take all that waits in memory, and
for no other reason.
-/

/-- Whether a file of some length takes so many bytes more, to the last one and for good. -/
def Storage.Obstacles.takes (obstacles : Obstacles) (length more : Nat) : Bool :=
  !obstacles.refusesFlush && obstacles.growthLimit.all fun limit => length + more ≤ limit

namespace SegmentWriter

variable {writer : SegmentWriter} {batch : Bytes}

theorem reach_eq_length_iff (some : batch ≠ []) (obstacles : Obstacles) :
    writer.reach obstacles batch = batch.length ↔
      ∀ limit ∈ obstacles.growthLimit, writer.length + batch.length ≤ limit := by
  have present := List.length_pos_iff.mpr some
  rw [reach]
  cases obstacles.growthLimit with
  | none => simp
  | some limit =>
      simp only [Option.mem_some_iff, forall_eq']
      omega

theorem succeeds_eq_takes (some : batch ≠ []) (syncsLast : writer.syncs = false)
    (obstacles : Obstacles) :
    writer.succeeds obstacles batch = obstacles.takes writer.length batch.length := by
  have whole := writer.reach_eq_length_iff some obstacles
  rw [Bool.eq_iff_iff, succeeds, Obstacles.takes, syncsLast]
  simp only [Bool.false_and, Bool.or_false, Bool.and_eq_true, beq_iff_eq, Bool.not_eq_true',
    Option.all_eq_true, decide_eq_true_eq, whole]
  exact and_comm

end SegmentWriter

namespace Archive

variable {start : Disk} {archive before after : Archive} {occasion : Occasion} {journal : Journal}
  {disk : Disk} {batch : List Entry}

/-!
### When files are made durable
-/

/-- Files are made durable when they are closed, and not before. -/
def SyncsLast (archive : Archive) : Prop :=
  ∀ writer ∈ archive.journal.writer, writer.syncs = false

theorem SyncsLast.of_none (absent : archive.journal.writer = none) : archive.SyncsLast := by
  simp [SyncsLast, absent]

theorem SyncsLast.move (syncsLast : before.SyncsLast) (move : Move occasion before after) :
    after.SyncsLast := by
  cases move with
  | remember policy catalog writer =>
      intro other there
      rw [writer] at there
      exact syncsLast other there
  | refuse absent refused => exact .of_none absent
  | make absent made =>
      rintro writer ⟨⟩
      rw [(SegmentWriter.create_ok made).1]
  | fail batch present => exact syncsLast
  | @land journal disk writer entries present whole =>
      rintro longer ⟨⟩
      exact syncsLast writer present
  | release => exact .of_none rfl
  | prune released => exact .of_none released

theorem SyncsLast.next (syncsLast : before.SyncsLast) (next : Next before after) :
    after.SyncsLast := by
  cases next with
  | @performed deed still awake =>
      rcases perform_cases before still with moves | cleared
      · exact moves.preserve SyncsLast.move syncsLast
      · rw [cleared, Journal.clear, Journal.whileOpen]
        split
        · exact syncsLast
        · exact .of_none rfl
  | closed occasion =>
      exact (moves_close occasion before.journal before.disk).preserve SyncsLast.move syncsLast
  | @opened policy obstacles journal disk opened =>
      cases files : policy.fileEnabled with
      | false => exact .of_none (openOn_unfiled files opened).2.2.2
      | true =>
          obtain ⟨_, rfl, _⟩ := openOn_ok files opened
          exact .of_none rfl

/-- No log makes its files durable before it closes them. -/
theorem Visited.syncsLast (visited : Visited start archive) : archive.SyncsLast := by
  obtain ⟨policy, obstacles, journal, disk, opened, later⟩ := visited
  have nothing : SyncsLast { journal := { journal with writer := none }, disk := start } :=
    .of_none rfl
  have first : SyncsLast { journal, disk } := nothing.next (.opened opened)
  induction later with
  | refl => exact first
  | tail _ next ih => exact ih.next next

/-!
### What a flush answers
-/

/-- The length of the file that the next batch goes to. If there is no such file it is made. -/
def target (occasion : Occasion) (archive : Archive) : Except Failure Nat :=
  match archive.journal.writer with
  | some writer => .ok writer.length
  | none =>
    (archive.disk.create occasion.obstacles (archive.upcoming occasion).name []).1.map fun _ => 0

/-- How many entries are written of a batch, which are all of them, or why the system refuses to. -/
def accepts (occasion : Occasion) (archive : Archive) (batch : List Entry) : Except Failure Nat :=
  match archive.target occasion with
  | .error failure => .error failure
  | .ok length =>
    if occasion.obstacles.takes length (Entry.lines batch).length then .ok batch.length
    else .error (.system "cannot write file")

/-- What becomes of all that waits in memory if it is written. Where nothing waits nothing is asked
of the system. -/
def flushes (occasion : Occasion) (archive : Archive) : Except Failure Nat :=
  if archive.journal.buffer.entries.isEmpty then .ok 0
  else archive.accepts occasion archive.journal.buffer.entries.toList

/-- The writer of the active segment is found or made, unless the file cannot be made. -/
theorem map_length_activeWriter (occasion : Occasion) (journal : Journal) (disk : Disk) :
    (journal.activeWriter occasion disk).1.map SegmentWriter.length =
      target occasion { journal, disk } := by
  rw [Journal.activeWriter, target]
  cases journal.writer with
  | some writer => rfl
  | none =>
      simp only [SegmentWriter.create, upcoming]
      cases (disk.create occasion.obstacles
          (journal.catalog.allocate journal.policy.directory occasion.now).1.name []).1 with
      | error failure => rfl
      | ok identity => rfl

/-- A batch is written if there is a file for it that takes it. -/
theorem answer_writeBatch (syncsLast : SyncsLast { journal, disk }) (some : batch ≠ [])
    (occasion : Occasion) :
    (journal.writeBatch occasion disk (Entry.lines batch)).answer.map (fun _ => batch.length) =
      accepts occasion { journal, disk } batch := by
  have later := (moves_activeWriter occasion journal disk).preserve SyncsLast.move syncsLast
  rw [accepts, ← map_length_activeWriter, Journal.writeBatch]
  cases opened : journal.activeWriter occasion disk with
  | mk answer rest =>
      cases answer with
      | error failure => rfl
      | ok writer =>
          rw [opened] at later
          have takes := SegmentWriter.succeeds_eq_takes (Entry.lines_ne_nil some)
            (later writer (writer_activeWriter opened)) occasion.obstacles
          cases whole : occasion.obstacles.takes writer.length (Entry.lines batch).length with
          | true => simp only [SegmentWriter.append, takes, whole, ↓reduceIte, Except.map]
          | false =>
              simp only [SegmentWriter.append, takes, whole, Bool.false_eq_true, ↓reduceIte,
                Except.map]

theorem answer_flushBuffer (syncsLast : SyncsLast { journal, disk }) (occasion : Occasion) :
    (journal.flushBuffer occasion true disk).answer = flushes occasion { journal, disk } := by
  have waiting : journal.buffer.pending.1 = journal.buffer.entries.toList := rfl
  rw [Journal.flushBuffer, if_neg (by simp), flushes]
  dsimp only
  rw [waiting]
  by_cases empty : journal.buffer.entries.isEmpty = true
  · have none : journal.buffer.entries.toList.isEmpty = true := by simpa using empty
    rw [if_pos none, if_pos empty]
  · have some : journal.buffer.entries.toList ≠ [] := by simpa using empty
    have present : ¬ journal.buffer.entries.toList.isEmpty = true := by simpa using empty
    have taken :
        SyncsLast { journal := { journal with buffer := journal.buffer.pending.2 }, disk } :=
      syncsLast
    have written : _ = accepts occasion { journal, disk } journal.buffer.entries.toList :=
      answer_writeBatch taken some occasion
    rw [if_neg present, if_neg empty, ← written]
    change _ = (Journal.writeBatch occasion _ disk
      (journal.buffer.entries.toList.flatMap Entry.line)).answer.map _
    generalize Journal.writeBatch occasion _ disk _ = outcome
    obtain ⟨answer, after, later⟩ := outcome
    cases answer with
    | error failure => rfl
    | ok length => rfl

/-- A flush by force fails exactly if the system refuses something of it. -/
theorem answer_flush (syncsLast : archive.SyncsLast) (going : archive.journal.closed = false)
    (files : archive.journal.policy.fileEnabled = true) (occasion : Occasion) :
    (archive.journal.flush occasion true archive.disk).answer = archive.flushes occasion := by
  rw [Journal.flush, whileOpen_going going, serveFlush_filed files]
  exact answer_flushBuffer syncsLast occasion

end Archive

end QueryJournal
