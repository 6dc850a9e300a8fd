import QueryJournal.Proofs.Journal.Reopening

namespace QueryJournal

open QueryJournal.Backward (Reader maxLineLength)
open QueryJournal.Pipeline (Sound idle)
open QueryJournal.Search (Clock Request)
open QueryJournal.Segment (Fits IsTidy found)
open QueryJournal.Storage

/-!
What becomes of a log that is used. Exchanges come in, batches are written, on request or behind
the scenes, segments are closed, everything is cleared, and the log is closed and opened again.
Whatever of this fails, a search for everything answers the records of the ledger.
-/

/-- What is done with a log, by those who use it and by its upkeep. -/
inductive Operation where
  | add (exchange : Exchange)
  | flush (force : Bool)
  | rotate
  | clear
  | flushBehind
  | rotateBehind
  | reopen (policy : Policy)

/-- A log and its directory. -/
structure Archive where
  journal : Journal
  disk : Disk

/-- Something that is done at a time and under circumstances. -/
structure Deed where
  occasion : Occasion
  operation : Operation

namespace Archive

def ofOutcome {α : Type} (outcome : Outcome α) : Archive :=
  { journal := outcome.journal, disk := outcome.disk }

/-- The archive after something was done. A log that cannot be opened again stays closed. -/
def perform (archive : Archive) (deed : Deed) : Archive :=
  let { journal, disk } := archive
  let { occasion, operation } := deed
  match operation with
  | .add exchange => { journal := (journal.add occasion.now exchange).2, disk }
  | .flush force => ofOutcome (journal.flush occasion force disk)
  | .rotate => ofOutcome (journal.rotate occasion disk)
  | .clear => ofOutcome (journal.clear occasion disk)
  | .flushBehind => ofOutcome (journal.serveFlush occasion false disk)
  | .rotateBehind => ofOutcome (journal.serveRotation occasion disk)
  | .reopen policy =>
    let closed := journal.close occasion disk
    match Journal.openOn policy occasion.obstacles closed.disk with
    | (.error _, disk) => { journal := closed.journal, disk }
    | (.ok journal, disk) => { journal, disk }

def performAll (archive : Archive) (deeds : List Deed) : Archive :=
  deeds.foldl perform archive

/-- What a deed means for the ledger. An exchange adds its record if it can be packed. Only a clear
drops all records. What is closed and opened again forgets what it could not write. -/
def ledgerAfter (archive : Archive) (ledger : Ledger) (deed : Deed) : Ledger :=
  let { journal, disk } := archive
  let { occasion, operation } := deed
  match operation with
  | .add exchange => ledger.added (exchange.record journal.policy.masksClients occasion.now)
  | .flush force => ledger.settled force (journal.flush occasion force disk).answer
  | .flushBehind => ledger.settled false (journal.serveFlush occasion false disk).answer
  | .rotate => ledger.settled true (journal.serveFlush occasion true disk).answer
  | .rotateBehind => ledger.settled true (journal.serveFlush occasion true disk).answer
  | .clear => ledger.after .cleared
  | .reopen policy =>
    (ledger.settled true
      ({ journal with closed := true }.serveFlush occasion true disk).answer).reopened policy

def ledgerAfterAll (archive : Archive) (ledger : Ledger) : List Deed → Ledger
  | [] => ledger
  | deed :: deeds => (archive.perform deed).ledgerAfterAll (archive.ledgerAfter ledger deed) deeds

/-- What is taken for granted of a deed: files can be removed, the next number and the time fit in
a name, a line is no longer than what is put together when it is read, and a log is opened again on
the same directory and to record as before. -/
structure Admits (archive : Archive) (deed : Deed) : Prop where
  removable : ∀ name, deed.occasion.obstacles.refusesRemoval name = false
  year : 0 ≤ deed.occasion.now.date.year ∧ deed.occasion.now.date.year ≤ 9999
  number : archive.journal.catalog.nextNumber < Numeral.wordLimit - 1
  short : ∀ exchange, deed.operation = .add exchange → ∀ entry,
    exchange.record archive.journal.policy.masksClients deed.occasion.now = .ok entry →
      entry.lineBody.length ≤ maxLineLength
  retains : ∀ policy, deed.operation = .reopen policy →
    policy.Retains ∧ policy.directory = archive.journal.policy.directory

def AdmitsAll (archive : Archive) : List Deed → Prop
  | [] => True
  | deed :: deeds => archive.Admits deed ∧ (archive.perform deed).AdmitsAll deeds

/-- The log is open, holds the records of the ledger, and agrees with its directory. -/
structure Keeps (archive : Archive) (ledger : Ledger) : Prop where
  going : archive.journal.closed = false
  retains : archive.journal.policy.Retains
  sound : Sound ledger (idle archive.journal archive.disk)
  indexed : Indexed archive.journal archive.disk

variable {archive : Archive} {ledger : Ledger} {deed : Deed} {deeds : List Deed}

theorem Admits.fits (admits : archive.Admits deed) :
    Fits archive.journal.catalog.nextNumber deed.occasion.now.truncated :=
  { word := Nat.lt_of_lt_of_le admits.number (Nat.sub_le _ _)
    whole := rfl
    year := admits.year }

/-!
### What no operation changes
-/

def SameSettings (after before : Journal) : Prop :=
  after.policy = before.policy ∧ after.closed = before.closed

theorem sameSettings_activeWriter (occasion : Occasion) (journal : Journal) (disk : Disk) :
    SameSettings (journal.activeWriter occasion disk).2.1 journal := by
  rw [Journal.activeWriter]
  split
  · exact ⟨rfl, rfl⟩
  · dsimp only
    split <;> exact ⟨rfl, rfl⟩

theorem sameSettings_writeBatch (occasion : Occasion) (journal : Journal) (disk : Disk)
    (batch : Utf8.Bytes) :
    SameSettings (journal.writeBatch occasion disk batch).journal journal := by
  have opened := sameSettings_activeWriter occasion journal disk
  rw [Journal.writeBatch]
  split
  · rename_i refused
    rw [refused] at opened
    exact opened
  · rename_i made
    rw [made] at opened
    exact opened

theorem sameSettings_flushBuffer (occasion : Occasion) (force : Bool) (journal : Journal)
    (disk : Disk) : SameSettings (journal.flushBuffer occasion force disk).journal journal := by
  have written := sameSettings_writeBatch occasion
    { journal with buffer := journal.buffer.pending.2 } disk
    (journal.buffer.pending.1.flatMap Entry.line)
  rw [Journal.flushBuffer]
  split
  · exact ⟨rfl, rfl⟩
  · dsimp only
    split
    · exact ⟨rfl, rfl⟩
    · split <;> exact written

theorem sameSettings_serveFlush (occasion : Occasion) (force : Bool) (journal : Journal)
    (disk : Disk) : SameSettings (journal.serveFlush occasion force disk).journal journal := by
  rw [Journal.serveFlush]
  split
  · exact sameSettings_flushBuffer occasion force journal disk
  · exact ⟨rfl, rfl⟩

theorem sameSettings_serveRotation (occasion : Occasion) (journal : Journal) (disk : Disk) :
    SameSettings (journal.serveRotation occasion disk).journal journal := by
  have flushed := sameSettings_flushBuffer occasion true journal disk
  rw [Journal.serveRotation]
  split
  · dsimp only
    split
    · exact flushed
    · split <;> exact flushed
  · exact ⟨rfl, rfl⟩

theorem sameSettings_add (occasion : Occasion) (exchange : Exchange) (journal : Journal) :
    SameSettings (journal.add occasion.now exchange).2 journal := by
  rw [Journal.add]
  split
  · exact ⟨rfl, rfl⟩
  · split <;> exact ⟨rfl, rfl⟩

theorem sameSettings_whileOpen {α : Type} {journal : Journal} {operation : Outcome α}
    (same : SameSettings operation.journal journal) (disk : Disk) :
    SameSettings (journal.whileOpen disk operation).journal journal := by
  rw [Journal.whileOpen]
  split
  · exact ⟨rfl, rfl⟩
  · exact same

theorem sameSettings_clear (occasion : Occasion) (journal : Journal) (disk : Disk) :
    SameSettings (journal.clear occasion disk).journal journal := by
  rw [Journal.clear, Journal.whileOpen]
  split <;> exact ⟨rfl, rfl⟩

theorem close_released (occasion : Occasion) (journal : Journal) (disk : Disk)
    (going : journal.closed = false) :
    (journal.close occasion disk).journal.policy = journal.policy ∧
      (journal.close occasion disk).journal.writer = none := by
  have flushed := sameSettings_serveFlush occasion true { journal with closed := true } disk
  rw [Journal.close, if_neg (ne_true_of_eq_false going)]
  exact ⟨flushed.1, rfl⟩

theorem policy_close (occasion : Occasion) (journal : Journal) (disk : Disk) :
    (journal.close occasion disk).journal.policy = journal.policy := by
  rw [Journal.close]
  split
  · rfl
  · exact (sameSettings_serveFlush occasion true { journal with closed := true } disk).1

/-!
### Every deed
-/

/-- The log is open and holds the records of the ledger. -/
structure Running (archive : Archive) (ledger : Ledger) : Prop where
  going : archive.journal.closed = false
  retains : archive.journal.policy.Retains
  sound : Sound ledger (idle archive.journal archive.disk)

theorem Keeps.running (keeps : archive.Keeps ledger) : archive.Running ledger :=
  { going := keeps.going
    retains := keeps.retains
    sound := keeps.sound }

theorem whileOpen_going {α : Type} {journal : Journal} (going : journal.closed = false)
    (disk : Disk) (operation : Outcome α) : journal.whileOpen disk operation = operation :=
  if_neg (ne_true_of_eq_false going)

/-- An operation that keeps the settings leaves a log running if it keeps the records. -/
theorem Running.operate {after : Archive} {next : Ledger} (running : archive.Running ledger)
    (settings : SameSettings after.journal archive.journal)
    (sound : Sound next (idle after.journal after.disk)) : after.Running next :=
  { going := settings.2.trans running.going
    retains := settings.1 ▸ running.retains
    sound }

/-- Whatever fails, a log that is not opened again goes on and holds the records of the ledger. -/
theorem Running.perform (running : archive.Running ledger)
    (still : ∀ policy, deed.operation ≠ .reopen policy)
    (short : ∀ exchange, deed.operation = .add exchange → ∀ entry,
      exchange.record archive.journal.policy.masksClients deed.occasion.now = .ok entry →
        entry.lineBody.length ≤ maxLineLength) :
    (archive.perform deed).Running (archive.ledgerAfter ledger deed) := by
  have files := running.retains.fileEnabled
  obtain ⟨going, retains, sound⟩ := id running
  obtain ⟨journal, disk⟩ := archive
  obtain ⟨occasion, operation⟩ := deed
  cases operation with
  | add exchange =>
      exact running.operate (sameSettings_add _ _ _)
        (sound.add occasion exchange going retains.enabled (short exchange rfl))
  | flush force =>
      simp only [Archive.perform, ledgerAfter, Journal.flush, whileOpen_going going]
      exact running.operate (sameSettings_serveFlush _ _ _ _)
        (sound.serveFlush occasion force files)
  | rotate =>
      simp only [Archive.perform, ledgerAfter, Journal.rotate, whileOpen_going going]
      exact running.operate (sameSettings_serveRotation _ _ _)
        (sound.serveRotation occasion files retains.keptSegments)
  | clear =>
      have settings : SameSettings (journal.clear occasion disk).journal journal := by
        rw [Journal.clear, whileOpen_going going]
        exact ⟨rfl, rfl⟩
      exact running.operate settings (sound.clear occasion going)
  | flushBehind =>
      exact running.operate (sameSettings_serveFlush _ _ _ _)
        (sound.serveFlush occasion false files)
  | rotateBehind =>
      exact running.operate (sameSettings_serveRotation _ _ _)
        (sound.serveRotation occasion files retains.keptSegments)
  | reopen policy => exact absurd rfl (still policy)

theorem Keeps.shut (keeps : archive.Keeps ledger) (absent : archive.journal.writer = none) :
    archive.journal.catalog.active = none := by
  obtain ⟨_, _, _, _, _, _, _, shelved⟩ := keeps.sound
  exact (shelved.shut absent).2

theorem Keeps.indexed_perform (keeps : archive.Keeps ledger) (admits : archive.Admits deed)
    (still : ∀ policy, deed.operation ≠ .reopen policy) :
    Indexed (archive.perform deed).journal (archive.perform deed).disk := by
  have shut := keeps.shut
  have fits := admits.fits
  obtain ⟨going, retains, _, indexed⟩ := keeps
  obtain ⟨journal, disk⟩ := archive
  obtain ⟨occasion, operation⟩ := deed
  cases operation with
  | add exchange => exact indexed.add exchange
  | flush force =>
      simp only [perform, Journal.flush, whileOpen_going going]
      exact indexed.serveFlush shut fits force
  | rotate =>
      simp only [perform, Journal.rotate, whileOpen_going going]
      exact indexed.serveRotation shut fits retains.keptSegments
  | clear => exact indexed.clear admits.removable
  | flushBehind => exact indexed.serveFlush shut fits false
  | rotateBehind => exact indexed.serveRotation shut fits retains.keptSegments
  | reopen policy => exact absurd rfl (still policy)

theorem Keeps.reopen {policy : Policy} (keeps : archive.Keeps ledger)
    (admits : archive.Admits deed) (again : deed.operation = .reopen policy) :
    (archive.perform deed).Keeps (archive.ledgerAfter ledger deed) := by
  have shut := keeps.shut
  have fits := admits.fits
  have files := keeps.retains.fileEnabled
  obtain ⟨retained, directory⟩ := admits.retains policy again
  obtain ⟨going, _, sound, indexed⟩ := keeps
  obtain ⟨journal, disk⟩ := archive
  obtain ⟨occasion, operation⟩ := deed
  subst again
  obtain ⟨settings, released⟩ := close_released occasion journal disk going
  have closed := indexed.close shut fits
  have same : policy.directory = (journal.close occasion disk).journal.policy.directory := by
    rw [settings]
    exact directory
  have opened := Journal.openOn_eq retained occasion.obstacles closed.usable
  have performed : perform ⟨journal, disk⟩ ⟨occasion, .reopen policy⟩ =
      { journal := Journal.openedOn policy (journal.close occasion disk).disk
        disk := (journal.close occasion disk).disk } := by
    simp only [perform, opened]
  rw [performed]
  exact
    { going := rfl
      retains := retained
      sound := (sound.close occasion files going).reopened closed released retained same
      indexed := Journal.indexed_openedOn closed.usable closed.tidy (same ▸ closed.distinct) }

theorem Keeps.perform (keeps : archive.Keeps ledger) (admits : archive.Admits deed) :
    (archive.perform deed).Keeps (archive.ledgerAfter ledger deed) := by
  by_cases again : ∃ policy, deed.operation = .reopen policy
  · obtain ⟨policy, again⟩ := again
    exact keeps.reopen admits again
  · have still : ∀ policy, deed.operation ≠ .reopen policy := fun policy same =>
      again ⟨policy, same⟩
    obtain ⟨going, retains, sound⟩ := keeps.running.perform still admits.short
    exact
      { going
        retains
        sound
        indexed := keeps.indexed_perform admits still }

theorem Keeps.performAll (keeps : archive.Keeps ledger) (admits : archive.AdmitsAll deeds) :
    (archive.performAll deeds).Keeps (archive.ledgerAfterAll ledger deeds) := by
  induction deeds generalizing archive ledger with
  | nil => exact keeps
  | cons deed deeds ih => exact ih (keeps.perform admits.1) admits.2

theorem Running.search (running : archive.Running ledger) (clock : Clock) {request : Request}
    (unbounded : request.Unbounded ledger.records.length) :
    ∃ report, archive.journal.search clock request archive.disk = .ok report ∧
      report.page = ledger.page := by
  refine ⟨_, by rw [Journal.search, if_neg (ne_true_of_eq_false running.going)], ?_⟩
  rw [Journal.files, if_pos running.retains.fileEnabled]
  exact running.sound.page clock (Pipeline.readLater_now _ _) unbounded

/-- Whatever is done with a log from the time at which it is opened on a directory, it stays open,
and a search for everything answers exactly the records of the ledger, the newest one first. The
ledger starts with the records that the directory holds, an exchange adds its record and costs the
oldest ones their place that are not written yet where too many wait, a clear drops all, and closing
loses what could not be written. No other deed, and no failure of one, changes the records. -/
theorem search_answers_history {policy : Policy} {obstacles : Obstacles} {disk after : Disk}
    {journal : Journal} (retains : policy.Retains) (tidy : IsTidy disk) (numbered : disk.Numbered)
    (distinct : ((found policy.directory disk).map Segment.number).Nodup)
    (opened : Journal.openOn policy obstacles disk = (.ok journal, after))
    (admits : AdmitsAll { journal, disk := after } deeds) (clock : Clock) {request : Request}
    (unbounded : request.Unbounded
      (ledgerAfterAll { journal, disk := after } (idle journal after).opening
        deeds).records.length) :
    (performAll { journal, disk := after } deeds).journal.closed = false ∧
      ∃ report, (performAll { journal, disk := after } deeds).journal.search clock request
          (performAll { journal, disk := after } deeds).disk = .ok report ∧
        report.page =
          (ledgerAfterAll { journal, disk := after } (idle journal after).opening deeds).page := by
  have usable := Journal.isUsable_of_openOn retains opened
  rw [Journal.openOn_eq retains obstacles usable, Prod.mk.injEq, Except.ok.injEq] at opened
  obtain ⟨rfl, rfl⟩ := opened
  have keeps : Keeps { journal := Journal.openedOn policy disk, disk }
      (idle (Journal.openedOn policy disk) disk).opening :=
    { going := rfl
      retains
      sound := (Journal.opened_openedOn tidy numbered).sound
      indexed := Journal.indexed_openedOn usable tidy distinct }
  have kept := keeps.performAll admits
  exact ⟨kept.going, kept.running.search clock unbounded⟩

def plainPolicy : Policy :=
  { (default : Policy) with enabled := true, fileEnabled := true }

/-- An exchange comes in, its record cannot be written to its end, and the log is closed and opened
again. -/
def troubledDeeds : List Deed :=
  [{ occasion := { now := default }, operation := .add { question := default, client := default } },
    { occasion := { now := default, obstacles := { growthLimit := some 3 } }
      operation := .flush true },
    { occasion := { now := default }, operation := .reopen plainPolicy }]

theorem retains_plainPolicy : plainPolicy.Retains :=
  ⟨rfl, rfl, rfl⟩

theorem openedOn_missing :
    Journal.openedOn plainPolicy {} = (Pipeline.fresh plainPolicy).journal := by
  simp [Journal.openedOn, Pipeline.fresh, found, Segment.discover, Segment.sorted, Disk.names,
    Disk.folder?, Folder.names, Catalog.ofExisting]

theorem openOn_missing : Journal.openOn plainPolicy .none {} =
    (.ok (Pipeline.fresh plainPolicy).journal, {}) := by
  rw [← openedOn_missing]
  exact Journal.openOn_eq retains_plainPolicy .none rfl

theorem admitsAll_troubledDeeds :
    AdmitsAll { journal := (Pipeline.fresh plainPolicy).journal, disk := {} } troubledDeeds := by
  refine ⟨⟨fun _ => rfl, by decide +kernel, by decide, ?_, fun _ other => (nomatch other)⟩,
    ⟨fun _ => rfl, by decide +kernel, by decide +kernel, fun _ other => (nomatch other),
      fun _ other => (nomatch other)⟩,
    ⟨fun _ => rfl, by decide +kernel, by decide +kernel, fun _ other => (nomatch other), ?_⟩, trivial⟩
  · rintro _ ⟨rfl⟩ entry read
    cases read
    decide +kernel
  · rintro _ ⟨rfl⟩
    exact ⟨retains_plainPolicy, rfl⟩

theorem search_answers_history_troubled :
    ∃ report,
      (performAll { journal := (Pipeline.fresh plainPolicy).journal, disk := {} }
        troubledDeeds).journal.search (fun _ => 0) { scanCap := 0 }
          (performAll { journal := (Pipeline.fresh plainPolicy).journal, disk := {} }
            troubledDeeds).disk = .ok report ∧ report.page.matched = 1 := by
  have opened : Journal.openOn plainPolicy .none {} =
      (.ok (Pipeline.fresh plainPolicy).journal, {}) := by
    rw [← openedOn_missing]
    exact Journal.openOn_eq retains_plainPolicy .none rfl
  have one : (ledgerAfterAll { journal := (Pipeline.fresh plainPolicy).journal, disk := {} }
      (idle (Pipeline.fresh plainPolicy).journal {}).opening troubledDeeds).records.length = 1 := by
    decide +kernel
  have unbounded : ({ scanCap := 0 } : Request).Unbounded 1 :=
    ⟨rfl, rfl, rfl, rfl, rfl, by decide⟩
  obtain ⟨_, report, answered, page⟩ := search_answers_history retains_plainPolicy
    (by simp [IsTidy, Disk.names, Disk.folder?, Folder.names])
    (by simp [Disk.Numbered, Disk.find?])
    (by simp [found, Segment.discover, Segment.sorted, Disk.names, Disk.folder?, Folder.names])
    opened admitsAll_troubledDeeds (fun _ => 0) (one ▸ unbounded)
  exact ⟨report, answered, by rw [page]; exact one⟩

end Archive

end QueryJournal
