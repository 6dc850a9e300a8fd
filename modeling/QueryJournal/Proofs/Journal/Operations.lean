import Mathlib.Logic.Relation
import QueryJournal.Proofs.Journal.Visibility

namespace QueryJournal.Pipeline

open QueryJournal.Backward (maxLineLength)
open QueryJournal.Storage

/-!
The operations of a log are made of its steps. What they do to the ledger follows from what they
answer.
-/

variable {ledger : Ledger} {journal after : Journal} {disk later : Disk} {batch : List Entry}
  {occasion : Occasion} {failure : Failure} {writer : SegmentWriter} {first last : Pipeline}

def idle (journal : Journal) (disk : Disk) : Pipeline :=
  { journal, disk, phase := .idle }

/-- Steps that mean nothing for the ledger lead from one state to the other. -/
def Quietly : Pipeline → Pipeline → Prop :=
  Relation.ReflTransGen fun before after => Step before .silent after

theorem Quietly.sound (quiet : Quietly first last) (sound : Sound ledger first) :
    Sound ledger last := by
  induction quiet with
  | refl => exact sound
  | tail _ step ih => exact ih.step step

theorem Sound.inFlight (sound : Sound ledger (idle journal disk)) : ledger.inFlight = 0 := by
  have none : (ledger.waiting.take ledger.inFlight).length = 0 := by
    rw [sound.batch]
    rfl
  rw [List.length_take, Nat.min_eq_left ledger.inFlight_le] at none
  exact none

/-!
### Writing a batch
-/

theorem activeWriter_ok (batch : List Entry)
    (opened : journal.activeWriter occasion disk = (.ok writer, after, later)) :
    after.writer = some writer ∧
      Quietly { journal, disk, phase := .taken batch }
        { journal := after, disk := later, phase := .writing batch } := by
  rw [Journal.activeWriter] at opened
  split at opened
  · rename_i present
    obtain ⟨⟨rfl⟩, rfl, rfl⟩ := opened
    exact ⟨present, .single (.resume present)⟩
  · rename_i absent
    dsimp only at opened
    split at opened
    · simp at opened
    · rename_i made
      simp only [Prod.mk.injEq, Except.ok.injEq] at opened
      obtain ⟨rfl, rfl, rfl⟩ := opened
      have numbered : Quietly { journal, disk, phase := .taken batch } _ :=
        .single (.number occasion.now absent)
      have active := (numbered.tail (.make occasion.obstacles made)).tail (.activate rfl)
      rw [(SegmentWriter.create_ok made).1] at active ⊢
      exact ⟨rfl, active⟩

/-- If no segment can be made the batch has failed. -/
theorem activeWriter_error
    (refused : journal.activeWriter occasion disk = (.error failure, after, later)) :
    Quietly { journal, disk, phase := .taken batch }
      { journal := after, disk := later, phase := .failed batch } := by
  rw [Journal.activeWriter] at refused
  split at refused
  · simp at refused
  · rename_i absent
    dsimp only at refused
    split at refused
    · rename_i made
      simp only [Prod.mk.injEq] at refused
      obtain ⟨_, rfl, rfl⟩ := refused
      have numbered : Quietly { journal, disk, phase := .taken batch } _ :=
        .single (.number occasion.now absent)
      exact numbered.tail (.refuse occasion.obstacles made)
    · simp at refused

/-- A batch that is written has landed, and the answer is the length that the writer knows. -/
theorem writeBatch_ok {length : Nat}
    (written : (journal.writeBatch occasion disk (Entry.lines batch)).answer = .ok length) :
    (∃ writer, (journal.writeBatch occasion disk (Entry.lines batch)).journal.writer = some writer ∧
      writer.length = length) ∧
      Quietly { journal, disk, phase := .taken batch }
        { journal := (journal.writeBatch occasion disk (Entry.lines batch)).journal
          disk := (journal.writeBatch occasion disk (Entry.lines batch)).disk
          phase := .landed batch } := by
  cases opened : journal.activeWriter occasion disk with
  | mk answer rest =>
      cases answer with
      | error failure => simp [Journal.writeBatch, opened] at written
      | ok writer =>
          obtain ⟨present, quiet⟩ := activeWriter_ok batch opened
          simp only [Journal.writeBatch, opened, SegmentWriter.append] at written ⊢
          split at written
          · rename_i whole
            simp only [Except.ok.injEq] at written
            rw [if_pos whole]
            exact ⟨⟨_, rfl, written⟩, quiet.tail (.land occasion.obstacles present whole)⟩
          · simp at written

/-- A batch that cannot be written has failed, and the file is cut back. -/
theorem writeBatch_error
    (refused : (journal.writeBatch occasion disk (Entry.lines batch)).answer = .error failure) :
    Quietly { journal, disk, phase := .taken batch }
      { journal := (journal.writeBatch occasion disk (Entry.lines batch)).journal
        disk := (journal.writeBatch occasion disk (Entry.lines batch)).disk
        phase := .failed batch } := by
  cases opened : journal.activeWriter occasion disk with
  | mk answer rest =>
      cases answer with
      | error cause =>
          simp only [Journal.writeBatch, opened]
          exact activeWriter_error opened
      | ok writer =>
          obtain ⟨present, quiet⟩ := activeWriter_ok batch opened
          simp only [Journal.writeBatch, opened, SegmentWriter.append] at refused ⊢
          split at refused
          · simp at refused
          · rename_i short
            rw [if_neg short]
            have grown := quiet.tail (.grow occasion.obstacles present)
            have back := grown.tail (.cutBack occasion.obstacles present)
            have same : { rest.1 with writer := some writer } = rest.1 := by
              rw [← present]
            simp only [same]
            exact back

/-!
### Flushes
-/

theorem after_committed (ledger : Ledger) :
    (ledger.after .taken).after .committed = ledger.persisted := by
  have covered := ledger.covered
  ext1
  · rfl
  · simp only [Ledger.after, Ledger.persisted]
    omega
  · rfl
  · rfl
  · rfl

theorem persisted_of_nothing (still : ledger.inFlight = 0) (none : ledger.waiting = []) :
    ledger.persisted = ledger := by
  have covered := ledger.covered
  have length := ledger.length_waiting
  rw [none, List.length_nil] at length
  ext1
  · rfl
  · simp only [Ledger.persisted]
    omega
  · exact still.symm
  · rfl
  · rfl

theorem settled_of_nothing (still : ledger.inFlight = 0) (none : ledger.waiting = [])
    (force : Bool) (count : Nat) : ledger.settled force (.ok count) = ledger := by
  rw [Ledger.settled, persisted_of_nothing still none, ite_self]

theorem settled_of_batch (force : Bool) (some : batch ≠ []) :
    ledger.settled force (.ok batch.length) = ledger.persisted := by
  have many : batch.length ≠ 0 := fun none => some (List.length_eq_zero_iff.mp none)
  simp [Ledger.settled, many]

theorem after_taken_of_nothing (still : ledger.inFlight = 0) (none : ledger.waiting = []) :
    ledger.after .taken = ledger := by
  have length := ledger.length_waiting
  rw [none] at length
  ext1
  · rfl
  · rfl
  · exact length.symm.trans still.symm
  · rfl
  · rfl

theorem after_aborted (still : ledger.inFlight = 0) :
    (ledger.after .taken).after .aborted = ledger := by
  ext1
  · rfl
  · rfl
  · exact still.symm
  · rfl
  · rfl

/-- A flush that succeeds writes all that waits, and one that fails changes nothing. -/
theorem Sound.flushBuffer (sound : Sound ledger (idle journal disk)) (occasion : Occasion)
    (force : Bool) :
    Sound (ledger.settled force (journal.flushBuffer occasion force disk).answer)
      (idle (journal.flushBuffer occasion force disk).journal
        (journal.flushBuffer occasion force disk).disk) := by
  have still := sound.inFlight
  have taken := sound.step .take
  have batch : journal.buffer.pending.1 = ledger.waiting := sound.memory.pending.1
  rw [Journal.flushBuffer]
  split
  · rename_i unasked
    have unforced : force = false := by
      simp only [Bool.and_eq_true, Bool.not_eq_true'] at unasked
      exact unasked.1
    rw [unforced]
    exact sound
  · dsimp only
    split
    · rename_i empty
      have none := List.isEmpty_iff.mp empty
      rw [none, after_taken_of_nothing still (batch ▸ none)] at taken
      rw [settled_of_nothing still (batch ▸ none)]
      exact taken.step .leave
    · rename_i nonempty
      split
      · rename_i refused
        have aborted := ((writeBatch_error refused).sound taken).step .abort
        rw [after_aborted still] at aborted
        exact aborted
      · rename_i written
        obtain ⟨⟨writer, present, rfl⟩, landed⟩ := writeBatch_ok written
        have committed := (landed.sound taken).step (.commit present)
        rw [settled_of_batch force (by simpa using nonempty),
          ← after_committed]
        exact committed

theorem Sound.serveFlush (sound : Sound ledger (idle journal disk)) (occasion : Occasion)
    (force : Bool) (files : journal.policy.fileEnabled = true) :
    Sound (ledger.settled force (journal.serveFlush occasion force disk).answer)
      (idle (journal.serveFlush occasion force disk).journal
        (journal.serveFlush occasion force disk).disk) := by
  rw [Journal.serveFlush, if_pos files]
  exact sound.flushBuffer occasion force

/-!
### Rotations, clears, closes and new entries
-/

theorem prune_none (catalog : Catalog) : catalog.prune none = ([], catalog) :=
  rfl

/-- A rotation that keeps every segment does to the ledger what its flush does. -/
theorem Sound.serveRotation (sound : Sound ledger (idle journal disk)) (occasion : Occasion)
    (files : journal.policy.fileEnabled = true) (keeps : journal.policy.keptSegments = none) :
    Sound (ledger.settled true (journal.serveFlush occasion true disk).answer)
      (idle (journal.serveRotation occasion disk).journal
        (journal.serveRotation occasion disk).disk) := by
  have flushed := sound.flushBuffer occasion true
  rw [Journal.serveFlush, if_pos files, Journal.serveRotation, if_pos files]
  dsimp only
  split
  · exact flushed
  · split
    · exact flushed
    · rw [keeps, prune_none]
      exact flushed.step .close

theorem removeAll_run (journal : Journal) (obstacles : Obstacles) (segments : List Segment)
    (disk : Disk) :
    Quietly { journal, disk, phase := .clearing segments }
      (idle journal (Journal.removeAll obstacles disk segments).2) := by
  induction segments generalizing disk with
  | nil => exact .single .finish
  | cons segment segments ih => exact (ih _).head (.remove obstacles)

/-- After a clear there are no records, whether or not the files could be removed. -/
theorem Sound.clear (sound : Sound ledger (idle journal disk)) (occasion : Occasion)
    (going : journal.closed = false) :
    Sound (ledger.after .cleared)
      (idle (journal.clear occasion disk).journal (journal.clear occasion disk).disk) := by
  have cleared := sound.step .clear
  rw [Journal.clear, Journal.whileOpen, if_neg (ne_true_of_eq_false going)]
  exact (removeAll_run _ occasion.obstacles _ disk).sound cleared

/-- A close does to the ledger what its flush does. What could not be written waits for ever. -/
theorem Sound.close (sound : Sound ledger (idle journal disk)) (occasion : Occasion)
    (files : journal.policy.fileEnabled = true) (going : journal.closed = false) :
    Sound (ledger.settled true
        ({ journal with closed := true }.serveFlush occasion true disk).answer)
      (idle (journal.close occasion disk).journal (journal.close occasion disk).disk) := by
  have shut : Sound ledger (idle { journal with closed := true } disk) :=
    ⟨sound.memory, sound.batch, sound.short, sound.files⟩
  rw [Journal.close, if_neg (ne_true_of_eq_false going)]
  exact (shut.serveFlush occasion true files).step .close

/-- An exchange that can be packed is the newest record; another one changes nothing. -/
theorem Sound.add (sound : Sound ledger (idle journal disk)) (occasion : Occasion)
    (exchange : Exchange) (going : journal.closed = false) (enabled : journal.policy.enabled = true)
    (short : ∀ entry, exchange.record journal.policy.masksClients occasion.now = .ok entry →
      entry.lineBody.length ≤ maxLineLength) :
    Sound (ledger.added (exchange.record journal.policy.masksClients occasion.now))
      (idle (journal.add occasion.now exchange).2 disk) := by
  have active : ¬(!journal.policy.enabled || journal.closed) = true := by
    simp [going, enabled]
  rw [Journal.add, if_neg active]
  cases read : exchange.record journal.policy.masksClients occasion.now with
  | error failure => exact ⟨sound.memory, sound.batch, sound.short, sound.files⟩
  | ok entry => exact sound.step (.append (idle journal disk) entry (short entry read))

end QueryJournal.Pipeline
