import QueryJournal.Proofs.Journal.Refusals

namespace QueryJournal

open QueryJournal.Segment (IsTidy)
open QueryJournal.Storage

/-!
How a log closes. It writes what waits in memory, makes the active segment durable and lets go of
it, and all of this happens even if some of it fails.
-/

namespace Journal

def shut (journal : Journal) : Journal :=
  { journal with closed := true }

/-- A flush does not ask whether the log is closed. -/
theorem activeWriter_shut (occasion : Occasion) (journal : Journal) (disk : Disk) :
    journal.shut.activeWriter occasion disk =
      ((journal.activeWriter occasion disk).1, (journal.activeWriter occasion disk).2.1.shut,
        (journal.activeWriter occasion disk).2.2) := by
  obtain ⟨policy, buffer, catalog, writer, _, _, _⟩ := journal
  cases writer with
  | some writer => rfl
  | none =>
      simp only [activeWriter, shut]
      generalize SegmentWriter.create occasion.obstacles disk _ false = made
      obtain ⟨answer, later⟩ := made
      cases answer <;> rfl

theorem writeBatch_shut (occasion : Occasion) (journal : Journal) (disk : Disk)
    (batch : Utf8.Bytes) :
    journal.shut.writeBatch occasion disk batch =
      { journal.writeBatch occasion disk batch with
        journal := (journal.writeBatch occasion disk batch).journal.shut } := by
  simp only [writeBatch, activeWriter_shut]
  generalize journal.activeWriter occasion disk = opened
  obtain ⟨answer, after, later⟩ := opened
  cases answer <;> rfl

theorem flushBuffer_shut (occasion : Occasion) (force : Bool) (journal : Journal) (disk : Disk) :
    journal.shut.flushBuffer occasion force disk =
      { journal.flushBuffer occasion force disk with
        journal := (journal.flushBuffer occasion force disk).journal.shut } := by
  have written := writeBatch_shut occasion { journal with buffer := journal.buffer.pending.2 } disk
    (journal.buffer.pending.1.flatMap Entry.line)
  obtain ⟨policy, buffer, catalog, writer, closed, unpacked, failed⟩ := journal
  simp only [shut] at written
  rw [flushBuffer, flushBuffer]
  simp only [shut]
  by_cases unasked : (!force && !buffer.flushPending) = true
  · simp only [unasked, ↓reduceIte]
  · by_cases empty : buffer.pending.1.isEmpty = true
    · simp only [unasked, empty, Bool.false_eq_true, ↓reduceIte]
    · simp only [unasked, empty, Bool.false_eq_true, ↓reduceIte, written]
      generalize writeBatch occasion _ disk _ = outcome
      obtain ⟨answer, after, later⟩ := outcome
      cases answer <;> rfl

theorem serveFlush_shut (occasion : Occasion) (force : Bool) (journal : Journal) (disk : Disk) :
    journal.shut.serveFlush occasion force disk =
      { journal.serveFlush occasion force disk with
        journal := (journal.serveFlush occasion force disk).journal.shut } := by
  rw [serveFlush, serveFlush]
  change (if journal.policy.fileEnabled then _ else _) = _
  split
  · exact flushBuffer_shut occasion force journal disk
  · rfl

/-- What letting go of a segment answers, where there is one. -/
def release (obstacles : Obstacles) : Option SegmentWriter → Except Failure Unit
  | none => .ok ()
  | some writer => (writer.close obstacles).map fun _ => ()

theorem release_eq (obstacles : Obstacles) (writer : Option SegmentWriter) :
    release obstacles writer =
      if writer.isSome && obstacles.refusesLastSync then .error (.system "cannot sync file")
      else .ok () := by
  cases writer with
  | none => rfl
  | some writer =>
      rw [release, SegmentWriter.close]
      cases obstacles.refusesLastSync with
      | true => rfl
      | false => rfl

variable {journal : Journal}

/-- A log that closes does what it would do to be flushed by force, and then lets go of the active
segment. -/
theorem close_eq (going : journal.closed = false) (occasion : Occasion) (disk : Disk) :
    journal.close occasion disk =
      { answer := match (journal.flush occasion true disk).answer with
          | .error failure => .error failure
          | .ok _ =>
            release occasion.obstacles (journal.flush occasion true disk).journal.writer
        journal :=
          { (journal.flush occasion true disk).journal.shut with
            catalog := (journal.flush occasion true disk).journal.catalog.closeActive.2
            writer := none }
        disk := (journal.flush occasion true disk).disk } := by
  have flushed := serveFlush_shut occasion true journal disk
  simp only [shut] at flushed
  rw [close, if_neg (ne_true_of_eq_false going), flush, Archive.whileOpen_going going]
  simp only [flushed, shut]
  rfl

/-- A forced flush leaves all that was in memory there, or nothing. -/
theorem entries_flushBuffer (occasion : Occasion) (journal : Journal) (disk : Disk) :
    (∀ failure, (journal.flushBuffer occasion true disk).answer = .error failure →
      (journal.flushBuffer occasion true disk).journal.buffer.entries = journal.buffer.entries) ∧
    ∀ count, (journal.flushBuffer occasion true disk).answer = .ok count →
      (journal.flushBuffer occasion true disk).journal.buffer.entries = #[] ∧
        count = journal.buffer.entries.size := by
  have buffer := Archive.buffer_writeBatch occasion
    { journal with buffer := journal.buffer.pending.2 } disk
    (journal.buffer.pending.1.flatMap Entry.line)
  rw [flushBuffer, if_neg (by simp)]
  dsimp only
  by_cases empty : journal.buffer.pending.1.isEmpty = true
  · have none : journal.buffer.entries = #[] := by simpa [Buffer.pending] using empty
    rw [if_pos empty]
    simp [Buffer.pending, none]
  · rw [if_neg empty]
    generalize writeBatch occasion _ disk _ = written at buffer ⊢
    obtain ⟨answer, after, later⟩ := written
    change after.buffer = journal.buffer.pending.2 at buffer
    cases answer with
    | error refused =>
        simp only [buffer]
        exact ⟨fun _ _ => rfl, by simp⟩
    | ok length =>
        simp only [buffer]
        refine ⟨by simp, fun count done => ⟨?_, ?_⟩⟩
        · simp [Buffer.commit, Buffer.pending]
        · cases done
          exact Array.length_toList

/-- Whether a segment is open once all that waits in memory is written: one that was open before, or
one that is made for what waits. -/
def endsOpen (journal : Journal) : Bool :=
  journal.writer.isSome || !journal.buffer.entries.isEmpty

theorem isSome_writer_writeBatch {occasion : Occasion} {disk : Disk} {batch : Utf8.Bytes}
    {length : Nat} (written : (journal.writeBatch occasion disk batch).answer = .ok length) :
    (journal.writeBatch occasion disk batch).journal.writer.isSome = true := by
  rw [writeBatch] at written ⊢
  split at written
  · contradiction
  · rfl

theorem isSome_writer_flushBuffer {occasion : Occasion} {disk : Disk} {count : Nat}
    (done : (journal.flushBuffer occasion true disk).answer = .ok count) :
    (journal.flushBuffer occasion true disk).journal.writer.isSome = journal.endsOpen := by
  rw [flushBuffer, if_neg (by simp)] at done ⊢
  dsimp only at done ⊢
  by_cases empty : journal.buffer.pending.1.isEmpty = true
  · have none : journal.buffer.entries.isEmpty = true := by simpa [Buffer.pending] using empty
    rw [if_pos empty, endsOpen, none]
    simp
  · have some : journal.buffer.entries.isEmpty = false := by simpa [Buffer.pending] using empty
    rw [if_neg empty] at done ⊢
    rw [endsOpen, some]
    cases written : (writeBatch occasion { journal with buffer := journal.buffer.pending.2 } disk
        (journal.buffer.pending.1.flatMap Entry.line)).answer with
    | error failure => simp [written] at done
    | ok length =>
        have opened := isSome_writer_writeBatch written
        simp only [opened, Bool.not_false, Bool.or_true]

end Journal

namespace Catalog

theorem closed_closeActive (catalog : Catalog) :
    catalog.closeActive.2.closed =
      catalog.closed ++ (catalog.active.map ActiveSegment.segment).toList := by
  rw [closeActive]
  cases catalog.active <;> simp

end Catalog

namespace Archive

variable {start : Disk} {archive before after : Archive} {occasion : Occasion} {journal : Journal}
  {disk : Disk} {written : List Entry}

/-- The lines of a batch come behind all that the file of a segment held, which may be a new one. -/
def Gains (segment : Segment) (batch : List Entry) (before after : Disk) : Prop :=
  ∃ identity content,
    (before.find? segment.name = some (.file identity content) ∨
      before.find? segment.name = none ∧ content = []) ∧
    after.find? segment.name = some (.file identity (content ++ Entry.lines batch))

/-- What a flush reports comes to the end of the active file. -/
theorem gains_serveFlush (coherent : Coherent start { journal, disk })
    (stocked : Stocked { journal, disk }) {force : Bool}
    (some : reported { journal, disk } (journal.serveFlush occasion force disk).answer ≠ []) :
    ∃ segment, current (ofOutcome (journal.serveFlush occasion force disk)) = [segment] ∧
      Gains segment (reported { journal, disk } (journal.serveFlush occasion force disk).answer)
        disk (journal.serveFlush occasion force disk).disk := by
  have grows := grows_serveFlush coherent stocked occasion force
  have after := ((moves_serveFlush occasion force journal disk).coherent_stocked coherent stocked).2
  obtain ⟨_, _, segment, active, _, _, _, placed⟩ := lies_serveFlush coherent some
  refine ⟨segment, active, ?_⟩
  rcases (enlists_serveFlush coherent.inactive occasion force disk).current with
    ⟨same, _⟩ | ⟨_, new, names⟩
  · rw [active, current, eq_comm, Option.toList_eq_singleton_iff, Option.map_eq_some_iff] at same
    obtain ⟨opened, present, rfl⟩ := same
    obtain ⟨identity, content, held, _, grown⟩ := grows.active opened present
    exact ⟨identity, content, .inl held, grown⟩
  · have mine : segment = upcoming { journal, disk } occasion := by
      rw [active] at new
      exact List.singleton_inj.mp new
    have free : disk.find? segment.name = none := by
      have apart := after.single
      rw [names, List.nodup_append] at apart
      have fresh : segment.name ∉ disk.names := fun member =>
        apart.2.2 _ member _ (List.mem_singleton_self _) (congrArg Segment.name mine)
      rw [Disk.mem_names_iff] at fresh
      exact Option.eq_none_iff_forall_ne_some.mpr fun node there => fresh ⟨node, there⟩
    rcases grows.fresh segment.name free with none | ⟨_, _, grown⟩
    · cases none.symm.trans placed
    · exact ⟨_, [], .inr ⟨free, rfl⟩, grown⟩

/-- A log that is closed for good. Everything that is asked of it is refused, but to be closed. -/
structure Final (archive : Archive) : Prop where
  close : ∀ occasion, archive.journal.close occasion archive.disk =
    { answer := .ok (), journal := archive.journal, disk := archive.disk }
  flush : ∀ occasion force, archive.journal.flush occasion force archive.disk =
    { answer := .error .closed, journal := archive.journal, disk := archive.disk }
  rotate : ∀ occasion, archive.journal.rotate occasion archive.disk =
    { answer := .error .closed, journal := archive.journal, disk := archive.disk }
  clear : ∀ occasion, archive.journal.clear occasion archive.disk =
    { answer := .error .closed, journal := archive.journal, disk := archive.disk }
  search : ∀ clock request, archive.journal.search clock request archive.disk = .error .closed

theorem final_of_closed (closed : archive.journal.closed = true) : Final archive :=
  { close := fun _ => if_pos closed
    flush := fun _ _ => if_pos closed
    rotate := fun _ => if_pos closed
    clear := fun _ => if_pos closed
    search := fun _ _ => if_pos closed }

/-- Where nothing is written every file that was there is what it was. -/
theorem AppendOnly.unchanged
    (appendOnly : AppendOnly occasion before after [] fun _ => False) {name : String} {node : Node}
    (there : before.disk.find? name = some node) : after.disk.find? name = some node := by
  by_cases listed : name ∈ before.journal.held.map Segment.name
  · obtain ⟨segment, member, rfl⟩ := List.mem_map.mp listed
    rcases List.mem_append.mp member with closed | current
    · exact ((appendOnly.closed segment closed).resolve_right fun gone => gone.2).trans there
    · rw [Option.mem_toList, Option.map_eq_some_iff] at current
      obtain ⟨active, known, rfl⟩ := current
      obtain ⟨identity, content, held, _, grown⟩ := appendOnly.active active known
      rw [Entry.lines, List.flatMap_nil, List.append_nil, ← held] at grown
      exact (grown.resolve_right fun gone => gone.2).trans there
  · rw [appendOnly.foreign name (by simp [there]) listed]
    exact there

/-- How a log closes, where `flushed` is what it comes to if it is flushed by force. -/
structure ClosesDown (occasion : Occasion) (archive : Archive) (flushed : Outcome Nat)
    (closed : Outcome Unit) : Prop where
  writer : closed.journal.writer = none
  active : closed.journal.catalog.active = none
  /-- The flush fails if the system refuses to make a file for what is in memory or to take all of
  it, and only then. -/
  answered : flushed.answer = archive.flushes occasion
  /-- If the flush fails, that is the answer. What was in memory still counts, and every file is what
  it was. -/
  unwritten : ∀ failure, flushed.answer = .error failure →
    closed.answer = .error failure ∧
      closed.journal.buffer.entries = archive.journal.buffer.entries ∧
      ∀ name node, archive.disk.find? name = some node → closed.disk.find? name = some node
  /-- If it succeeds, nothing is left in memory, and all of it is at the end of the last file. -/
  written : ∀ count, flushed.answer = .ok count →
    closed.journal.buffer.entries = #[] ∧
      (archive.journal.buffer.entries ≠ #[] →
        ∃ segment, closed.journal.catalog.closed.getLast? = some segment ∧
          Gains segment archive.journal.buffer.entries.toList archive.disk closed.disk)
  /-- If it succeeds and the system refuses to make the last file durable, that is the answer. -/
  unsynced : ∀ count, flushed.answer = .ok count → archive.journal.endsOpen = true →
    occasion.obstacles.refusesLastSync = true → closed.answer = .error (.system "cannot sync file")
  done : ∀ count, flushed.answer = .ok count →
    (archive.journal.endsOpen = true → occasion.obstacles.refusesLastSync = false) →
      closed.answer = .ok ()
  final : Final (ofOutcome closed)

theorem closesDown (orderly : Orderly start archive) (syncsLast : archive.SyncsLast)
    (going : archive.journal.closed = false)
    (files : archive.journal.policy.fileEnabled = true) (occasion : Occasion) :
    ClosesDown occasion archive (archive.journal.flush occasion true archive.disk)
      (archive.journal.close occasion archive.disk) := by
  have closing : AppendOnly occasion archive _ _ fun _ => False := orderly.closing occasion
  have answered := answer_flush syncsLast going files occasion
  obtain ⟨coherent, stocked, _⟩ := orderly
  obtain ⟨journal, disk⟩ := archive
  change journal.closed = false at going
  have flush : journal.flush occasion true disk = journal.serveFlush occasion true disk :=
    whileOpen_going going disk _
  have reports : lastReports { journal, disk } occasion =
      reported { journal, disk } (journal.serveFlush occasion true disk).answer := by
    have flushed := Journal.serveFlush_shut occasion true journal disk
    rw [lastReports, if_neg (ne_true_of_eq_false going)]
    exact congrArg (fun outcome => reported { journal, disk } outcome.answer) flushed
  have filed : journal.serveFlush occasion true disk = journal.flushBuffer occasion true disk :=
    serveFlush_filed files occasion true disk
  obtain ⟨failed, done⟩ := Journal.entries_flushBuffer occasion journal disk
  rw [← filed] at failed done
  rw [reports] at closing
  simp only [Journal.close_eq going, flush] at closing ⊢
  have released : ∀ count, (journal.serveFlush occasion true disk).answer = .ok count →
      Journal.release occasion.obstacles (journal.serveFlush occasion true disk).journal.writer =
        if journal.endsOpen && occasion.obstacles.refusesLastSync then
          .error (.system "cannot sync file")
        else .ok () := by
    intro count written
    rw [filed] at written ⊢
    rw [Journal.release_eq, Journal.isSome_writer_flushBuffer written]
  refine
    { writer := rfl
      active := Catalog.active_closeActive _
      answered := flush ▸ answered
      unwritten := fun failure refused => ?_
      written := fun count written => ?_
      unsynced := fun count written ends refused => ?_
      done := fun count written synced => ?_
      final := final_of_closed rfl }
  · rw [refused] at closing ⊢
    exact ⟨rfl, failed failure refused, fun name node there => closing.unchanged there⟩
  · obtain ⟨empty, all⟩ := done count written
    refine ⟨empty, fun some => ?_⟩
    have whole : reported { journal, disk } (journal.serveFlush occasion true disk).answer =
        journal.buffer.entries.toList := by
      rw [written, reported, all, ← Array.length_toList, List.take_length]
    have reported : reported { journal, disk } (journal.serveFlush occasion true disk).answer ≠
        [] := by
      rw [whole]
      simpa using some
    obtain ⟨segment, active, gains⟩ := gains_serveFlush coherent stocked reported
    rw [whole] at gains
    refine ⟨segment, ?_, gains⟩
    have closed := Catalog.closed_closeActive (journal.serveFlush occasion true disk).journal.catalog
    change _ = _ ++ current (ofOutcome (journal.serveFlush occasion true disk)) at closed
    rw [closed, active, List.getLast?_concat]
  · change journal.endsOpen = true at ends
    rw [written]
    dsimp only
    rw [released count written, ends, refused]
    rfl
  · have none : ¬ (journal.endsOpen && occasion.obstacles.refusesLastSync) = true := by
      rw [Bool.and_eq_true]
      rintro ⟨ends, refused⟩
      cases refused.symm.trans (synced ends)
    rw [written]
    dsimp only
    rw [released count written, if_neg none]

/-- In every session on a directory a log that records to files closes down, whatever fails while it
does. It lets go of its writer and of the active segment. If the flush fails, this is what it
answers, and nothing is lost by it. If nothing but the last sync fails, it answers that. Unless the
flush fails, all that was in memory is at the end of the last file. Afterwards it can only be closed
again, which does nothing. -/
theorem close_releases_and_reports (tidy : IsTidy start) (single : start.names.Nodup)
    (numbered : start.Numbered) (visited : Visited start archive)
    (going : archive.journal.closed = false) (files : archive.journal.policy.fileEnabled = true)
    (occasion : Occasion) :
    ClosesDown occasion archive (archive.journal.flush occasion true archive.disk)
      (archive.journal.close occasion archive.disk) :=
  closesDown (visited.orderly tidy single numbered) visited.syncsLast going files occasion

theorem visited_emptyActive : Visited {} emptyActive :=
  ⟨plainPolicy, .none, _, _, openOn_missing, later_performAll (by simp [secondFlushDeeds])
    (by simp [secondFlushDeeds, Operation.isUpkeep]) _⟩

/-- A full disk, whose last sync would fail as well. -/
def fullOccasion : Occasion :=
  { now := default, obstacles := { growthLimit := some 3, refusesLastSync := true } }

/-- A disk that takes everything, but does not make it durable. -/
def unsyncedOccasion : Occasion :=
  { now := default, obstacles := { refusesLastSync := true } }

/-- One record waits for a segment that is still empty. It cannot be written, or it is written and
cannot be made durable, or nothing fails. -/
theorem close_releases_and_reports_each :
    ((emptyActive.journal.close fullOccasion emptyActive.disk).answer =
        .error (.system "cannot write file") ∧
      (emptyActive.journal.close fullOccasion emptyActive.disk).journal.buffered = 1 ∧
      (emptyActive.journal.close fullOccasion emptyActive.disk).journal.writer = none) ∧
    ((emptyActive.journal.close unsyncedOccasion emptyActive.disk).answer =
        .error (.system "cannot sync file") ∧
      (emptyActive.journal.close unsyncedOccasion emptyActive.disk).journal.buffered = 0 ∧
      (emptyActive.journal.close unsyncedOccasion emptyActive.disk).journal.writer = none) ∧
    (emptyActive.journal.close { now := default } emptyActive.disk).answer = .ok () ∧
      (emptyActive.journal.close { now := default } emptyActive.disk).journal.buffered = 0 := by
  have closes := close_releases_and_reports (by simp [IsTidy, Disk.names, Disk.folder?, Folder.names])
    (by simp [Disk.names, Disk.folder?, Folder.names]) (by simp [Disk.Numbered, Disk.find?])
    visited_emptyActive (by decide +kernel) (by decide +kernel)
  have full := closes fullOccasion
  have unsynced := closes unsyncedOccasion
  have plain := closes { now := default }
  have one : emptyActive.journal.buffer.entries.size = 1 := by decide +kernel
  have refused : emptyActive.flushes fullOccasion = .error (.system "cannot write file") := by
    decide +kernel
  have taken : emptyActive.flushes unsyncedOccasion = .ok 1 := by decide +kernel
  have easy : emptyActive.flushes { now := default } = .ok 1 := by decide +kernel
  obtain ⟨answer, kept, _⟩ := full.unwritten _ (full.answered.trans refused)
  have synced := unsynced.unsynced 1 (unsynced.answered.trans taken) (by decide +kernel) rfl
  have written := (unsynced.written 1 (unsynced.answered.trans taken)).1
  have done := plain.done 1 (plain.answered.trans easy) fun _ => rfl
  have emptied := (plain.written 1 (plain.answered.trans easy)).1
  simp only [Journal.buffered, kept, written, emptied]
  exact ⟨⟨answer, one, full.writer⟩, ⟨synced, rfl, unsynced.writer⟩, done, rfl⟩

end Archive

end QueryJournal
