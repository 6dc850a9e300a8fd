import QueryJournal.Proofs.Journal.Attention
import QueryJournal.Proofs.Journal.Bookkeeping
import QueryJournal.Proofs.Journal.Closing

namespace QueryJournal

open QueryJournal.Storage

/-!
When a flush that is not forced has something to do. A buffer asks for one exactly while it holds as
many entries as it is meant to, whatever was done with it, and the buffer of a log goes through
nothing that is not such a history.
-/

namespace Buffer

variable {buffer : Buffer Entry} {history : List (Operation Entry)}

theorem Attentive.perform (attentive : buffer.Attentive) (operation : Operation Entry) :
    (buffer.perform operation).Attentive := by
  cases operation with
  | append entry => exact attentive.append entry
  | pending => exact attentive.pending
  | commit => exact attentive.commit
  | abort => exact attentive.abort
  | clear => exact attentive.clear

theorem attentive_performAll (capacity : Nat) (persistent : Bool)
    (history : List (Operation Entry)) :
    ((new capacity persistent).performAll history).Attentive := by
  induction history using List.reverseRecOn with
  | nil => exact attentive_new capacity persistent
  | append_singleton history operation ih =>
      rw [performAll_concat]
      exact ih.perform operation

theorem isFull_perform (buffer : Buffer Entry) (operation : Operation Entry) (size : Nat) :
    (buffer.perform operation).isFull size = buffer.isFull size := by
  cases operation with
  | append entry => exact buffer.isFull_append entry size
  | pending | commit | abort | clear => rfl

theorem isFull_performAll (buffer : Buffer Entry) (history : List (Operation Entry))
    (size : Nat) : (buffer.performAll history).isFull size = buffer.isFull size := by
  induction history using List.reverseRecOn with
  | nil => rfl
  | append_singleton history operation ih => rw [performAll_concat, isFull_perform, ih]

/-- After any history the buffer asks for a flush if entries wait in it to be written and if they
are as many as it is meant to hold. -/
theorem flushPending_performAll (capacity : Nat) (persistent : Bool)
    (history : List (Operation Entry)) :
    ((new capacity persistent).performAll history).flushPending = true ↔
      persistent = true ∧
        max capacity 1 ≤ ((new capacity persistent).performAll history).entries.size := by
  rw [(attentive_performAll capacity persistent history).asks, isFull_performAll, isFull_iff]
  rfl

end Buffer

namespace Journal

variable {journal after : Journal} {disk : Disk} {occasion : Occasion}

/-- A flush has written all that was in memory, or it tells that it failed and all is still there. -/
def Writes (journal : Journal) (flushed : Outcome Nat) : Prop :=
  flushed.answer = .ok journal.buffer.entries.size ∧ flushed.journal.buffer.entries = #[] ∨
    ∃ failure, flushed.answer = .error failure ∧
      flushed.journal.buffer.entries = journal.buffer.entries

theorem writes_flushBuffer (occasion : Occasion) (journal : Journal) (disk : Disk) :
    journal.Writes (journal.flushBuffer occasion true disk) := by
  obtain ⟨failed, done⟩ := entries_flushBuffer occasion journal disk
  cases answer : (journal.flushBuffer occasion true disk).answer with
  | error failure => exact .inr ⟨failure, answer, failed failure answer⟩
  | ok count =>
      obtain ⟨empty, rfl⟩ := done count answer
      exact .inl ⟨answer, empty⟩

/-- If the buffer asks for a flush exactly under a condition, then a flush that is not forced writes
under that condition, and otherwise nothing changes. -/
theorem flushBuffer_unforced {full : Prop} (asks : journal.buffer.flushPending = true ↔ full)
    (occasion : Occasion) (disk : Disk) :
    (full → journal.Writes (journal.flushBuffer occasion false disk)) ∧
      (¬full → journal.flushBuffer occasion false disk = { answer := .ok 0, journal, disk }) := by
  constructor
  · intro full
    have forced : journal.flushBuffer occasion false disk =
        journal.flushBuffer occasion true disk := by
      simp only [flushBuffer, asks.mpr full, Bool.not_true, Bool.and_false]
    rw [forced]
    exact journal.writes_flushBuffer occasion disk
  · intro spare
    rw [flushBuffer, Bool.eq_false_iff.mpr (mt asks.mp spare)]
    rfl

/-!
### The buffer of a log
-/

/-- The buffer of a log has come about by operations on a new one. -/
def Evolved (journal : Journal) : Prop :=
  ∃ history, journal.buffer =
    (Buffer.new journal.policy.memorySize journal.policy.fileEnabled).performAll history

/-- The entries in memory are to be written to files, and they are as many as there is room meant
for. -/
def IsFull (journal : Journal) : Prop :=
  journal.policy.fileEnabled = true ∧ max journal.policy.memorySize 1 ≤ journal.buffer.entries.size

theorem Evolved.flushPending (evolved : journal.Evolved) :
    journal.buffer.flushPending = true ↔ journal.IsFull := by
  obtain ⟨history, same⟩ := evolved
  rw [IsFull, same]
  exact Buffer.flushPending_performAll _ _ history

theorem Evolved.performs (evolved : journal.Evolved) (policy : after.policy = journal.policy)
    (operations : List (Buffer.Operation Entry))
    (buffer : after.buffer = journal.buffer.performAll operations) : after.Evolved := by
  obtain ⟨history, same⟩ := evolved
  exact ⟨history ++ operations, by rw [buffer, same, policy, Buffer.performAll_append]⟩

theorem Evolved.add (evolved : journal.Evolved) (occasion : Occasion) (exchange : Exchange) :
    (journal.add occasion.now exchange).2.Evolved := by
  rw [Journal.add]
  split
  · exact evolved
  · split
    · exact evolved.performs rfl [] rfl
    · rename_i entry _
      exact evolved.performs rfl [.append entry] rfl

theorem Evolved.flushBuffer (evolved : journal.Evolved) (occasion : Occasion) (force : Bool)
    (disk : Disk) : (journal.flushBuffer occasion force disk).journal.Evolved := by
  have policy := (Archive.sameSettings_writeBatch occasion
    { journal with buffer := journal.buffer.pending.2 } disk
    (journal.buffer.pending.1.flatMap Entry.line)).1
  have buffer := Archive.buffer_writeBatch occasion
    { journal with buffer := journal.buffer.pending.2 } disk
    (journal.buffer.pending.1.flatMap Entry.line)
  rw [Journal.flushBuffer]
  split
  · exact evolved
  · dsimp only
    split
    · exact evolved.performs rfl [.pending] rfl
    · split
      · exact evolved.performs policy [.pending, .abort] (congrArg Buffer.abort buffer)
      · exact evolved.performs policy [.pending, .commit] (congrArg Buffer.commit buffer)

theorem Evolved.serveFlush (evolved : journal.Evolved) (occasion : Occasion) (force : Bool)
    (disk : Disk) : (journal.serveFlush occasion force disk).journal.Evolved := by
  rw [Journal.serveFlush]
  split
  · exact evolved.flushBuffer occasion force disk
  · exact evolved

theorem Evolved.serveRotation (evolved : journal.Evolved) (occasion : Occasion) (disk : Disk) :
    (journal.serveRotation occasion disk).journal.Evolved := by
  have flushed := evolved.flushBuffer occasion true disk
  rw [Journal.serveRotation]
  split
  · dsimp only
    split
    · exact flushed
    · split
      · exact flushed
      · exact flushed.performs rfl [] rfl
  · exact evolved

theorem Evolved.clear (evolved : journal.Evolved) (occasion : Occasion) (disk : Disk) :
    (journal.clear occasion disk).journal.Evolved := by
  rw [Journal.clear, whileOpen]
  split
  · exact evolved
  · exact evolved.performs rfl [.clear] rfl

theorem Evolved.close (evolved : journal.Evolved) (occasion : Occasion) (disk : Disk) :
    (journal.close occasion disk).journal.Evolved := by
  have closing : { journal with closed := true }.Evolved := evolved.performs rfl [] rfl
  rw [Journal.close]
  split
  · exact evolved
  · exact (closing.serveFlush occasion true disk).performs rfl [] rfl

theorem Evolved.whileOpen {α : Type} (evolved : journal.Evolved) {operation : Outcome α}
    (operated : operation.journal.Evolved) (disk : Disk) :
    (journal.whileOpen disk operation).journal.Evolved := by
  rw [Journal.whileOpen]
  split
  · exact evolved
  · exact operated

theorem evolved_openOn {policy : Policy} {obstacles : Obstacles} {start : Disk}
    (opened : Journal.openOn policy obstacles start = (.ok journal, disk)) : journal.Evolved := by
  rw [Journal.openOn] at opened
  dsimp only at opened
  split at opened
  · cases opened
  · cases opened
    exact ⟨[], rfl⟩

end Journal

namespace Archive

variable {archive : Archive} {policy : Policy} {obstacles : Obstacles} {start disk : Disk}
  {journal : Journal}

theorem evolved_perform (evolved : archive.journal.Evolved) (deed : Deed) :
    (archive.perform deed).journal.Evolved := by
  obtain ⟨journal, disk⟩ := archive
  obtain ⟨occasion, operation⟩ := deed
  cases operation with
  | add exchange => exact evolved.add occasion exchange
  | flush force => exact evolved.whileOpen (evolved.serveFlush occasion force disk) disk
  | rotate => exact evolved.whileOpen (evolved.serveRotation occasion disk) disk
  | clear => exact evolved.clear occasion disk
  | flushBehind => exact evolved.serveFlush occasion false disk
  | rotateBehind => exact evolved.serveRotation occasion disk
  | reopen policy =>
      simp only [perform]
      split
      · exact evolved.close occasion disk
      · rename_i opened
        exact Journal.evolved_openOn opened

theorem evolved_performAll (evolved : archive.journal.Evolved) (deeds : List Deed) :
    (archive.performAll deeds).journal.Evolved := by
  induction deeds generalizing archive with
  | nil => exact evolved
  | cons deed deeds ih => exact ih (evolved_perform evolved deed)

/-- After any history of a buffer its flag says whether it is full, and so does the answer to each
entry that comes in. The same holds of the buffer of a log, whatever was done with the log and
whatever of it failed. So a flush that is not forced changes nothing while the buffer is not full,
and otherwise it writes everything or fails. -/
theorem flush_flag_is_fill_level :
    (∀ (capacity : Nat) (persistent : Bool) (history : List (Buffer.Operation Entry)),
      let buffer := (Buffer.new capacity persistent).performAll history
      let full := persistent = true ∧ max capacity 1 ≤ buffer.entries.size
      (buffer.flushPending = true ↔ full) ∧
      (∀ entry,
        (buffer.append entry).2.flushPending = (buffer.append entry).1.flushWanted ∧
          ((buffer.append entry).1.flushWanted = true ↔
            persistent = true ∧ max capacity 1 ≤ (buffer.append entry).2.entries.size)) ∧
      ∀ (occasion : Occasion) (others : Journal) (disk : Disk),
        let journal := { others with buffer }
        let flushed := journal.flushBuffer occasion false disk
        (full → journal.Writes flushed) ∧
          (¬full → flushed = { answer := .ok 0, journal, disk })) ∧
    ∀ (policy : Policy) (obstacles : Obstacles) (start disk : Disk) (journal : Journal)
        (deeds : List Deed) (occasion : Occasion),
      Journal.openOn policy obstacles start = (.ok journal, disk) →
        let archive := performAll { journal, disk } deeds
        let flushed := archive.journal.serveFlush occasion false archive.disk
        (archive.journal.buffer.flushPending = true ↔ archive.journal.IsFull) ∧
          (archive.journal.IsFull → archive.journal.Writes flushed) ∧
          (¬archive.journal.IsFull →
            flushed = { answer := .ok 0, journal := archive.journal, disk := archive.disk }) := by
  constructor
  · intro capacity persistent history
    have asks := Buffer.flushPending_performAll capacity persistent history
    refine ⟨asks, fun entry => ?_, fun occasion others disk => ?_⟩
    · have attentive := Buffer.attentive_performAll capacity persistent history
      have same := attentive.flushPending_append entry
      have later := Buffer.flushPending_performAll capacity persistent (history ++ [.append entry])
      rw [Buffer.performAll_concat] at later
      exact ⟨same, same ▸ later⟩
    · exact Journal.flushBuffer_unforced asks occasion disk
  · intro policy obstacles start disk journal deeds occasion opened
    have evolved : (performAll { journal, disk } deeds).journal.Evolved :=
      evolved_performAll (Journal.evolved_openOn opened) deeds
    obtain ⟨writes, idles⟩ :=
      Journal.flushBuffer_unforced evolved.flushPending occasion (performAll _ deeds).disk
    refine ⟨evolved.flushPending, fun full => ?_, fun spare => ?_⟩
    · rw [Journal.serveFlush, if_pos full.1]
      exact writes full
    · rw [Journal.serveFlush]
      split
      · exact idles spare
      · rfl

/-- There is room for one entry. It comes in and cannot be written at first, so the buffer asks
again, and a flush that is not forced tries once more. -/
theorem flush_flag_is_fill_level_after_failure :
    let archive := performAll { journal := (Pipeline.fresh plainPolicy).journal, disk := {} }
      (troubledDeeds.take 2)
    archive.journal.failedFlushes = 1 ∧ archive.journal.buffer.flushPending = true ∧
      archive.journal.Writes
        (archive.journal.serveFlush { now := default } false archive.disk) := by
  obtain ⟨asks, writes, _⟩ := flush_flag_is_fill_level.2 plainPolicy .none {} {} _
    (troubledDeeds.take 2) { now := default } openOn_missing
  have full : (performAll { journal := (Pipeline.fresh plainPolicy).journal, disk := {} }
      (troubledDeeds.take 2)).journal.IsFull := ⟨by decide +kernel, by decide +kernel⟩
  exact ⟨by decide +kernel, asks.mpr full, writes full⟩

end Archive

end QueryJournal
