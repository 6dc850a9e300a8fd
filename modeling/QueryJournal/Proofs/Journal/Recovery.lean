import QueryJournal.Proofs.Journal.Representation
import QueryJournal.Proofs.Journal.TornTail

namespace QueryJournal

open QueryJournal.Backward (Reader maxLineLength)
open QueryJournal.Pipeline (Sound idle)
open QueryJournal.Search (Clock Request entryOf? isSkipped itemsOf)
open QueryJournal.Segment (IsTidy found)
open QueryJournal.Storage
open QueryJournal.Utf8 (Bytes)

/-!
A log that is opened after a crash, over a segment whose last line was cut off. What was whole is
found, and what comes later is written to other segments.
-/

/-!
### Records in files stay
-/

namespace Ledger

variable {ledger : Ledger}

theorem stored_prefix_records (ledger : Ledger) : ledger.stored <+: ledger.records :=
  List.take_prefix _ _

theorem stored_persisted (ledger : Ledger) : ledger.persisted.stored = ledger.records :=
  List.take_length

theorem stored_settled (ledger : Ledger) (force : Bool) (answer : Except Failure Nat) :
    ledger.stored <+: (ledger.settled force answer).stored := by
  cases answer with
  | error failure => exact List.prefix_rfl
  | ok count =>
      rw [settled]
      split
      · rw [stored_persisted]
        exact ledger.stored_prefix_records
      · exact List.prefix_rfl

theorem stored_reopened (ledger : Ledger) (policy : Policy) :
    (ledger.reopened policy).stored = ledger.stored :=
  List.take_length

theorem unread_settled (ledger : Ledger) (force : Bool) (answer : Except Failure Nat) :
    (ledger.settled force answer).unread = ledger.unread := by
  cases answer with
  | error failure => rfl
  | ok count =>
      rw [settled]
      split <;> rfl

end Ledger

namespace Archive

variable {directory : String} {disk : Disk}
  {occasions : List Occasion} {archive : Archive} {policy : Policy} {journal : Journal}
  {ledger : Ledger} {deed : Deed} {deeds earlier later : List Deed} {segment : Segment}
  {identity cut : Nat} {entries : List Entry} {request : Request}

/-- Without a clear no record goes that is in a file, and no line becomes unreadable. -/
theorem stored_ledgerAfter (kept : deed.operation ≠ .clear) :
    ledger.stored <+: (archive.ledgerAfter ledger deed).stored ∧
      (archive.ledgerAfter ledger deed).unread = ledger.unread := by
  obtain ⟨journal, disk⟩ := archive
  obtain ⟨occasion, operation⟩ := deed
  cases operation with
  | add exchange =>
      simp only [ledgerAfter]
      cases exchange.record journal.policy.masksClients occasion.now with
      | error failure => exact ⟨List.prefix_rfl, rfl⟩
      | ok entry =>
          rw [Ledger.added, Ledger.stored_append]
          exact ⟨List.prefix_rfl, rfl⟩
  | clear => exact absurd rfl kept
  | reopen policy =>
      simp only [ledgerAfter]
      rw [Ledger.stored_reopened]
      exact ⟨ledger.stored_settled _ _, ledger.unread_settled _ _⟩
  | flush | rotate | flushBehind | rotateBehind =>
      exact ⟨ledger.stored_settled _ _, ledger.unread_settled _ _⟩

theorem stored_ledgerAfterAll (kept : ∀ deed ∈ deeds, deed.operation ≠ .clear) :
    ledger.stored <+: (archive.ledgerAfterAll ledger deeds).stored ∧
      (archive.ledgerAfterAll ledger deeds).unread = ledger.unread := by
  induction deeds generalizing archive ledger with
  | nil => exact ⟨List.prefix_rfl, rfl⟩
  | cons deed deeds ih =>
      obtain ⟨here, same⟩ := stored_ledgerAfter (kept deed List.mem_cons_self)
      obtain ⟨there, still⟩ := ih fun other member => kept other (List.mem_cons_of_mem deed member)
      exact ⟨here.trans there, still.trans same⟩

theorem ledgerAfterAll_append (archive : Archive) (ledger : Ledger) (earlier later : List Deed) :
    archive.ledgerAfterAll ledger (earlier ++ later) =
      (archive.performAll earlier).ledgerAfterAll
        (archive.ledgerAfterAll ledger earlier) later := by
  induction earlier generalizing archive ledger with
  | nil => rfl
  | cons deed earlier ih => exact ih (archive.perform deed) (archive.ledgerAfter ledger deed)

/-!
### Deeds that ask nothing of the directory
-/

/-- A deed that neither clears the log nor opens it again, with a record that can be read back if
there is one. Anything may fail meanwhile. -/
structure Mild (archive : Archive) (deed : Deed) : Prop where
  kept : deed.operation ≠ .clear
  still : ∀ policy, deed.operation ≠ .reopen policy
  short : ∀ exchange, deed.operation = .add exchange → ∀ entry,
    exchange.record archive.journal.policy.masksClients deed.occasion.now = .ok entry →
      entry.lineBody.length ≤ maxLineLength

def MildAll (archive : Archive) : List Deed → Prop
  | [] => True
  | deed :: deeds => archive.Mild deed ∧ (archive.perform deed).MildAll deeds

theorem Running.performAll (running : archive.Running ledger) (mild : archive.MildAll deeds) :
    (archive.performAll deeds).Running (archive.ledgerAfterAll ledger deeds) := by
  induction deeds generalizing archive ledger with
  | nil => exact running
  | cons deed deeds ih => exact ih (running.perform mild.1.still mild.1.short) mild.2

/-!
### A directory after a crash
-/

/-- A directory with just one segment, whose file holds lines of entries up to a cut. -/
structure CutOff (directory : String) (disk : Disk) (segment : Segment) (identity : Nat)
    (entries : List Entry) (cut : Nat) : Prop where
  tidy : IsTidy disk
  numbered : disk.Numbered
  alone : found directory disk = [segment]
  placed : disk.find? segment.name = some (.file identity ((Entry.lines entries).take cut))
  short : ∀ entry ∈ entries, entry.lineBody.length ≤ maxLineLength

namespace CutOff

variable (cutOff : CutOff directory disk segment identity entries cut)
include cutOff

theorem isUsable : disk.IsUsable := by
  have placed := cutOff.placed
  cases place : disk.place with
  | missing => simp [Disk.find?, place] at placed
  | occupied => simp [Disk.find?, place] at placed
  | folder nodes => simp [Disk.IsUsable, Disk.folder?, place]

theorem closed_openedOn (same : policy.directory = directory) :
    (Journal.openedOn policy disk).catalog.closed = [segment] := by
  simp [Journal.openedOn, Catalog.ofExisting, same, cutOff.alone, Segment.sorted]

theorem openOn_eq (files : policy.fileEnabled = true) (same : policy.directory = directory)
    (kept : policy.keptSegments ≠ some 0) (obstacles : Obstacles) :
    Journal.openOn policy obstacles disk = (.ok (Journal.openedOn policy disk), disk) := by
  have nothing : (Journal.openedOn policy disk).catalog.prune policy.keptSegments =
      ([], (Journal.openedOn policy disk).catalog) := by
    cases bound : policy.keptSegments with
    | none => rfl
    | some count =>
        have present : count ≠ 0 := fun zero => kept (zero ▸ bound)
        have excess : [segment].length - count = 0 := by
          rw [List.length_singleton]
          omega
        simp only [Catalog.prune, cutOff.closed_openedOn same, excess, List.take_zero,
          List.drop_zero]
        rw [← cutOff.closed_openedOn same]
  rw [openOn_pruned files cutOff.isUsable, nothing]
  rfl

theorem items_file :
    (closedItems disk [segment]).filterMap entryOf? = (Entry.survivors 0 cut entries).reverse ∧
      (closedItems disk [segment]).countP isSkipped =
        if Entry.isTorn 0 cut entries then 1 else 0 := by
  have read : closedItems disk [segment] =
      (Reader.ofContent ((Entry.lines entries).take cut) none).items := by
    have target : Journal.reader? disk { segment, limit := none } =
        some (.ofContent ((Entry.lines entries).take cut) none) := reader?_file cutOff.placed
    simp [closedItems, target, itemsOf]
  rw [read]
  exact Entry.items_take_lines cutOff.short cut

/-- A search for everything finds the records before the cut, the newest first. -/
theorem search_openedOn (files : policy.fileEnabled = true) (same : policy.directory = directory)
    (clock : Clock) (unbounded : request.Unbounded (Entry.survivors 0 cut entries).length) :
    ∃ report, (Journal.openedOn policy disk).search clock request disk = .ok report ∧
      report.page =
        { entries := (Entry.survivors 0 cut entries).reverse
          matched := (Entry.survivors 0 cut entries).length
          oldest := (Entry.survivors 0 cut entries).head?.map Entry.time
          skipped := if Entry.isTorn 0 cut entries then 1 else 0
          truncated := false } := by
  obtain ⟨read, skipped⟩ := cutOff.items_file
  have plan : (Journal.openedOn policy disk).files disk =
      [Journal.reader? disk { segment, limit := none }] := by
    have closed := cutOff.closed_openedOn same
    have active : (Journal.openedOn policy disk).catalog.active = none := rfl
    have enabled : (Journal.openedOn policy disk).policy.fileEnabled = true := files
    rw [Journal.files, if_pos enabled, Catalog.scanPlan, closed, active]
    rfl
  have items : ((Journal.openedOn policy disk).files disk).flatMap itemsOf =
      closedItems disk [segment] := by
    rw [plan]
    simp [closedItems]
  rw [← items] at read skipped
  refine ⟨_, rfl, ?_⟩
  have page := Search.page_run_unbounded clock [] ((Journal.openedOn policy disk).files disk) read
    (by simpa using unbounded)
  rw [skipped] at page
  change (Search.run clock request [] ((Journal.openedOn policy disk).files disk)).page = _
  simpa using page

/-- As long as the file is there it holds what it held, and records go to a segment with a larger
number. -/
theorem untouched {content : Bytes} (reached : Reached directory disk occasions archive)
    (placed : archive.disk.find? segment.name = some (.file identity content)) :
    content = (Entry.lines entries).take cut ∧
      ∀ active ∈ archive.journal.catalog.active, segment.number < active.segment.number := by
  have distinct : ((found directory disk).map Segment.number).Nodup := by
    rw [cutOff.alone]
    exact List.nodup_singleton _
  obtain ⟨ordered, coherent⟩ := reached.consistent cutOff.tidy cutOff.numbered distinct
  have old := cutOff.numbered segment.name identity _ cutOff.placed
  constructor
  · cases (coherent.files segment.name identity content placed).2 with
    | found _ same =>
        rw [cutOff.placed] at same
        simpa using same.symm
    | made since _ _ => exact absurd since (Nat.not_le.mpr old)
  · -- The writer has a file of its own, so the old segment has another name than the active one.
    intro active there
    obtain ⟨writer, attached⟩ := coherent.writer_of_active there
    have first : segment ∈ found directory disk := by
      rw [cutOff.alone]
      exact List.mem_singleton_self _
    have listed : segment ∈ found directory archive.disk := by
      refine (Segment.mem_found ordered.tidy).mpr ⟨?_, ((Segment.mem_found cutOff.tidy).mp first).2⟩
      exact Disk.mem_names_iff.mpr ⟨_, placed⟩
    refine ordered.newest active there segment listed fun same => ?_
    obtain ⟨_, own⟩ := attached.placed
    rw [attached.same, ← same, placed, Option.some.injEq, Node.file.injEq] at own
    exact absurd attached.own (Nat.not_le.mpr (own.1 ▸ old))

theorem opening_openedOn (same : policy.directory = directory) :
    (idle (Journal.openedOn policy disk) disk).opening.stored = Entry.survivors 0 cut entries ∧
      (idle (Journal.openedOn policy disk) disk).opening.unread =
        if Entry.isTorn 0 cut entries then 1 else 0 := by
  obtain ⟨read, skipped⟩ := cutOff.items_file
  have closed := cutOff.closed_openedOn same
  constructor
  · rw [Pipeline.stored_opening]
    simp only [Pipeline.opening, idle, closed, read, List.reverse_reverse]
  · simp only [Pipeline.opening, idle, closed, skipped]

end CutOff

/-- Deeds that may open the log again and then deeds that do not. None of them is a clear. -/
structure Bears (archive : Archive) (earlier later : List Deed) : Prop where
  kept : ∀ deed ∈ earlier, deed.operation ≠ .clear
  admits : archive.AdmitsAll earlier
  mild : (archive.performAll earlier).MildAll later

theorem MildAll.kept (mild : archive.MildAll deeds) : ∀ deed ∈ deeds, deed.operation ≠ .clear := by
  induction deeds generalizing archive with
  | nil => simp
  | cons first deeds ih =>
      intro deed member
      rcases List.mem_cons.mp member with rfl | rest
      · exact mild.1.kept
      · exact ih mild.2 deed rest

theorem Bears.kept_append (bears : archive.Bears earlier later) :
    ∀ deed ∈ earlier ++ later, deed.operation ≠ .clear := by
  intro deed member
  rcases List.mem_append.mp member with first | last
  · exact bears.kept deed first
  · exact bears.mild.kept deed last

theorem Keeps.bears (keeps : archive.Keeps ledger) (bears : archive.Bears earlier later) :
    (archive.performAll (earlier ++ later)).Running
      (archive.ledgerAfterAll ledger (earlier ++ later)) := by
  rw [Archive.performAll, List.foldl_append, ledgerAfterAll_append]
  exact (keeps.performAll bears.admits).running.performAll bears.mild

/-- Whatever was in files at some time is found later, behind what came since. -/
theorem stored_suffix_page {before since : List Deed}
    (kept : ∀ deed ∈ before ++ since, deed.operation ≠ .clear) :
    (archive.ledgerAfterAll ledger before).stored.reverse <:+
      (archive.ledgerAfterAll ledger (before ++ since)).page.entries := by
  rw [ledgerAfterAll_append, Ledger.page, List.reverse_suffix]
  have last : ∀ deed ∈ since, deed.operation ≠ .clear := fun deed member =>
    kept deed (List.mem_append_right before member)
  exact (stored_ledgerAfterAll last).1.trans (Ledger.stored_prefix_records _)

/-- A log that keeps every segment finds what was before the cut and all that it wrote since. -/
theorem CutOff.retrievable (cutOff : CutOff directory disk segment identity entries cut)
    {obstacles : Obstacles} (retains : policy.Retains) (same : policy.directory = directory)
    (opened : Journal.openOn policy obstacles disk = (.ok archive.journal, archive.disk))
    (bears : archive.Bears earlier later) (clock : Clock)
    (unbounded : request.Unbounded
      (archive.ledgerAfterAll (idle archive.journal archive.disk).opening
        (earlier ++ later)).records.length) :
    ∃ report,
      (archive.performAll (earlier ++ later)).journal.search clock request
        (archive.performAll (earlier ++ later)).disk = .ok report ∧
        report.page.skipped = (if Entry.isTorn 0 cut entries then 1 else 0) ∧
        (Entry.survivors 0 cut entries).reverse <:+ report.page.entries ∧
          ∀ before since, before ++ since = earlier ++ later →
            (archive.ledgerAfterAll (idle archive.journal archive.disk).opening
              before).stored.reverse <:+ report.page.entries := by
  obtain ⟨journal, after⟩ := archive
  rw [Journal.openOn_eq retains obstacles cutOff.isUsable, Prod.mk.injEq, Except.ok.injEq]
    at opened
  obtain ⟨rfl, rfl⟩ := opened
  have keeps : Keeps { journal := Journal.openedOn policy disk, disk }
      (idle (Journal.openedOn policy disk) disk).opening :=
    { going := rfl
      retains
      sound := (Journal.opened_openedOn cutOff.tidy cutOff.numbered).sound
      indexed :=
        Journal.indexed_openedOn cutOff.isUsable cutOff.tidy (by simp [same, cutOff.alone]) }
  obtain ⟨report, answered, page⟩ := (keeps.bears bears).search clock unbounded
  obtain ⟨stored, unread⟩ := cutOff.opening_openedOn same
  have kept := bears.kept_append
  have found : ∀ before since, before ++ since = earlier ++ later →
      (ledgerAfterAll { journal := Journal.openedOn policy disk, disk }
        (idle (Journal.openedOn policy disk) disk).opening before).stored.reverse <:+
          report.page.entries := by
    intro before since split
    rw [page, ← split]
    exact stored_suffix_page (split ▸ kept)
  refine ⟨report, answered, ?_, ?_, found⟩
  · rw [page]
    exact (stored_ledgerAfterAll kept).2.trans unread
  · rw [← stored]
    exact found [] (earlier ++ later) rfl

/-- A crash may cut off the last line of a segment. No record is read from the beginning of an
object, so whoever opens the directory finds the records before the cut, and one line is skipped if
the cut goes through an object. No later record is written to that file, and the ones that are
written go to segments with larger numbers. While nothing is cleared and no segment is given up all
of them stay, however often the log is closed and opened again. -/
theorem torn_tail_recovered (cutOff : CutOff directory disk segment identity entries cut) :
    (∀ (entry : Entry) (front rest : Bytes), entry.lineBody = front ++ rest → front ≠ [] →
      rest ≠ [] → Entry.ofLine? front = none) ∧
    (∀ (policy : Policy) (obstacles : Obstacles) (clock : Clock) (request : Request),
      policy.fileEnabled = true → policy.directory = directory → policy.keptSegments ≠ some 0 →
        request.Unbounded (Entry.survivors 0 cut entries).length →
          ∃ journal report, Journal.openOn policy obstacles disk = (.ok journal, disk) ∧
            journal.search clock request disk = .ok report ∧
              report.page =
                { entries := (Entry.survivors 0 cut entries).reverse
                  matched := (Entry.survivors 0 cut entries).length
                  oldest := (Entry.survivors 0 cut entries).head?.map Entry.time
                  skipped := if Entry.isTorn 0 cut entries then 1 else 0
                  truncated := false }) ∧
    (∀ (occasions : List Occasion) (archive : Archive) (content : Bytes),
      Reached directory disk occasions archive →
        archive.disk.find? segment.name = some (.file identity content) →
          content = (Entry.lines entries).take cut ∧
            ∀ active ∈ archive.journal.catalog.active, segment.number < active.segment.number) ∧
    (∀ (policy : Policy) (obstacles : Obstacles) (archive : Archive) (earlier later : List Deed)
        (clock : Clock) (request : Request),
      policy.Retains → policy.directory = directory →
        Journal.openOn policy obstacles disk = (.ok archive.journal, archive.disk) →
          archive.Bears earlier later →
            request.Unbounded
                (archive.ledgerAfterAll (idle archive.journal archive.disk).opening
                  (earlier ++ later)).records.length →
              ∃ report,
                (archive.performAll (earlier ++ later)).journal.search clock request
                  (archive.performAll (earlier ++ later)).disk = .ok report ∧
                  report.page.skipped = (if Entry.isTorn 0 cut entries then 1 else 0) ∧
                  (Entry.survivors 0 cut entries).reverse <:+ report.page.entries ∧
                    ∀ before since, before ++ since = earlier ++ later →
                      (archive.ledgerAfterAll (idle archive.journal archive.disk).opening
                        before).stored.reverse <:+ report.page.entries) := by
  refine ⟨fun _ _ _ => Entry.ofLine?_beginning, ?_, ?_, ?_⟩
  · intro policy obstacles clock request files same kept unbounded
    obtain ⟨report, answered, page⟩ := cutOff.search_openedOn files same clock unbounded
    exact ⟨_, report, cutOff.openOn_eq files same kept obstacles, answered, page⟩
  · intro occasions archive content reached placed
    exact cutOff.untouched reached placed
  · intro policy obstacles archive earlier later clock request retains same opened bears unbounded
    exact cutOff.retrievable retains same opened bears clock unbounded

/-- The first three bytes of a line. -/
def tornLine : Bytes :=
  (Entry.lines [default]).take 3

theorem mildAll_secondFlushDeeds (archive : Archive)
    (masked : archive.journal.policy.masksClients = false) : archive.MildAll secondFlushDeeds := by
  refine ⟨⟨nofun, nofun, ?_⟩, ⟨nofun, nofun, fun _ other => (nomatch other)⟩,
    ⟨nofun, nofun, fun _ other => (nomatch other)⟩, trivial⟩
  rintro _ ⟨rfl⟩ entry read
  rw [masked] at read
  cases read
  decide +kernel

theorem cutOff_loneDisk : ∃ segment,
    CutOff plainPolicy.directory (loneDisk tornLine) segment 0 [default] 3 := by
  obtain ⟨segment, alone⟩ := List.length_eq_one_iff.mp
    (show (found plainPolicy.directory (loneDisk tornLine)).length = 1 by decide +kernel)
  have member : segment ∈ found plainPolicy.directory (loneDisk tornLine) := by
    rw [alone]
    exact List.mem_singleton_self _
  have name : segment.name = "querylog-00000001-20240102T030405Z.jsonl" :=
    List.mem_singleton.mp ((Segment.mem_found (tidy_loneDisk tornLine)).mp member).1
  refine ⟨segment,
    { tidy := tidy_loneDisk tornLine
      numbered := numbered_loneDisk tornLine
      alone
      placed := by rw [name]; rfl
      short := by simpa using Pipeline.length_lineBody_default }⟩

theorem opening_loneArchive :
    (idle (loneArchive tornLine).journal (loneArchive tornLine).disk).opening =
      { records := []
        written := 0
        inFlight := 0
        ceiling := 2
        unread := 1
        covered := Nat.le_refl _ } := by
  have survivors : Entry.survivors 0 3 [default] = [] := by decide +kernel
  have torn : Entry.isTorn 0 3 [default] = true := by decide +kernel
  obtain ⟨segment, cutOff⟩ := cutOff_loneDisk
  obtain ⟨stored, unread⟩ := @CutOff.opening_openedOn _ _ plainPolicy _ _ _ _ cutOff rfl
  rw [Pipeline.stored_opening, survivors] at stored
  have covered := (idle (loneArchive tornLine).journal (loneArchive tornLine).disk).opening.covered
  ext1
  · exact stored
  · change _ + 0 ≤ List.length (Ledger.records _) at covered
    rw [loneArchive, stored] at covered
    exact Nat.le_zero.mp covered
  · rfl
  · rfl
  · rw [torn] at unread
    exact unread

/-- A line is torn after three bytes. A record comes in and is written, at the second attempt, and is
found by a search that skips the torn line. -/
theorem torn_tail_recovered_lone :
    ∃ report,
      ((loneArchive tornLine).performAll secondFlushDeeds).journal.search (fun _ => 0)
          { scanCap := 0 } ((loneArchive tornLine).performAll secondFlushDeeds).disk =
        .ok report ∧ report.page.skipped = 1 ∧ report.page.entries ≠ [] := by
  obtain ⟨segment, cutOff⟩ := cutOff_loneDisk
  have one : ((loneArchive tornLine).ledgerAfterAll
      (idle (loneArchive tornLine).journal (loneArchive tornLine).disk).opening
        secondFlushDeeds).records.length = 1 := by
    rw [opening_loneArchive]
    decide +kernel
  have written : ((loneArchive tornLine).ledgerAfterAll
      (idle (loneArchive tornLine).journal (loneArchive tornLine).disk).opening
        secondFlushDeeds).stored.length = 1 := by
    rw [opening_loneArchive]
    decide +kernel
  have unbounded : ({ scanCap := 0 } : Request).Unbounded 1 :=
    ⟨rfl, rfl, rfl, rfl, rfl, by decide⟩
  have bears : (loneArchive tornLine).Bears [] secondFlushDeeds :=
    ⟨by simp, trivial, mildAll_secondFlushDeeds _ rfl⟩
  obtain ⟨report, answered, skipped, _, found⟩ := (torn_tail_recovered cutOff).2.2.2 plainPolicy
    .none (loneArchive tornLine) [] secondFlushDeeds (fun _ => 0) { scanCap := 0 }
    retains_plainPolicy rfl (openOn_loneDisk tornLine) bears
    (by rw [List.nil_append, one]; exact unbounded)
  have torn : Entry.isTorn 0 3 [default] = true := by decide +kernel
  refine ⟨report, answered, skipped.trans (if_pos torn), fun none => ?_⟩
  have empty := found secondFlushDeeds [] rfl
  rw [none, List.suffix_nil, List.reverse_eq_nil_iff] at empty
  rw [empty] at written
  contradiction

end Archive

end QueryJournal
