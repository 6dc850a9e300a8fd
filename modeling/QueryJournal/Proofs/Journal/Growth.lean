import QueryJournal.Proofs.Journal.Sessions

namespace QueryJournal

open QueryJournal.Segment (IsTidy found)
open QueryJournal.Storage

/-!
What becomes of files. The file of the active segment grows at its end, by the lines of what a flush
reports, and that of a closed segment does not change. A file goes as a whole, when everything is
cleared or when more segments are closed than are kept. What else is in the directory stays as it
is.
-/

/-- What an index gives up is in excess of what is kept. -/
theorem Catalog.keptSegments_of_prune {catalog : Catalog} {kept : Option Nat} {segment : Segment}
    (given : segment ∈ (catalog.prune kept).1) :
    kept = some (catalog.prune kept).2.closed.length := by
  cases kept with
  | none => cases given
  | some kept =>
      have some := List.length_pos_of_mem given
      simp only [prune, List.length_take, List.length_drop] at some ⊢
      exact congrArg Option.some (by omega)

namespace Archive

variable {start disk : Disk} {occasion : Occasion} {archive before middle after : Archive}
  {journal : Journal} {written : List Entry} {gone : Segment → Prop}

/-- The segment that gets the next number. -/
def upcoming (archive : Archive) (occasion : Occasion) : Segment :=
  (archive.journal.catalog.allocate archive.journal.policy.directory occasion.now).1

/-- The entries that a flush reports to have written, which are the oldest ones. -/
def reported (archive : Archive) : Except Failure Nat → List Entry
  | .ok count => archive.journal.buffer.entries.toList.take count
  | .error _ => []

/-- What a deed may do to files, where `written` is what its flush reports and only the segments go
that may be `gone`. -/
structure AppendOnly (occasion : Occasion) (before after : Archive) (written : List Entry)
    (gone : Segment → Prop) : Prop where
  closed : ∀ segment ∈ before.journal.catalog.closed,
    after.disk.find? segment.name = before.disk.find? segment.name ∨
      after.disk.find? segment.name = none ∧ gone segment
  /-- What counts in the active file stays, and the lines of the entries come behind it. -/
  active : ∀ active ∈ before.journal.catalog.active, ∃ identity content,
    before.disk.find? active.segment.name = some (.file identity content) ∧
      content.length = active.committed ∧
        (after.disk.find? active.segment.name =
            some (.file identity (content ++ Entry.lines written)) ∨
          after.disk.find? active.segment.name = none ∧ gone active.segment)
  foreign : ∀ name, before.disk.find? name ≠ none →
    name ∉ before.journal.held.map Segment.name → after.disk.find? name = before.disk.find? name
  /-- A file that was not there is that of the next segment, and a new one. -/
  fresh : ∀ name, before.disk.find? name = none →
    after.disk.find? name = none ∨
      before.journal.catalog.active = none ∧ name = (before.upcoming occasion).name ∧
        after.disk.find? name = some (.file before.disk.nextIdentity (Entry.lines written))

/-!
### Flushes
-/

/-- What a flush does to the files and to the index. -/
structure Grows (occasion : Occasion) (before after : Archive) (written : List Entry) : Prop where
  others : ∀ name, before.disk.find? name ≠ none →
    (∀ active ∈ before.journal.catalog.active, name ≠ active.segment.name) →
      after.disk.find? name = before.disk.find? name
  active : ∀ active ∈ before.journal.catalog.active, ∃ identity content,
    before.disk.find? active.segment.name = some (.file identity content) ∧
      content.length = active.committed ∧
        after.disk.find? active.segment.name =
          some (.file identity (content ++ Entry.lines written))
  fresh : ∀ name, before.disk.find? name = none →
    after.disk.find? name = none ∨
      before.journal.catalog.active = none ∧ name = (before.upcoming occasion).name ∧
        after.disk.find? name = some (.file before.disk.nextIdentity (Entry.lines written))
  held : ∀ segment ∈ after.journal.held, segment ∈ before.journal.held ∨
    before.disk.find? segment.name = none

theorem Grows.congr {first last : Archive} (grows : Grows occasion before after written)
    (policy : first.journal.policy = before.journal.policy)
    (catalog : first.journal.catalog = before.journal.catalog) (disk : first.disk = before.disk)
    (held : last.journal.held = after.journal.held) (same : last.disk = after.disk) :
    Grows occasion first last written := by
  obtain ⟨others, active, fresh, known⟩ := grows
  have mine : first.journal.held = before.journal.held := congrArg (·.takeAll.1) catalog
  rw [upcoming, ← policy, ← catalog, ← disk, ← same] at fresh
  rw [← mine, ← disk, ← held] at known
  rw [← catalog, ← disk, ← same] at others active
  exact ⟨others, active, fresh, known⟩

/-- Nothing is written and every name stands for what it stood for. -/
theorem Coherent.grows_same (coherent : Coherent start before)
    (same : ∀ name, after.disk.find? name = before.disk.find? name)
    (held : after.journal.held = before.journal.held) : Grows occasion before after [] := by
  refine
    { others := fun name _ _ => same name
      active := fun active present => ?_
      fresh := fun name free => .inl ((same name).trans free)
      held := fun segment member => .inl (held ▸ member) }
  obtain ⟨writer, attached⟩ := coherent.writer_of_active present
  obtain ⟨content, placed⟩ := attached.placed
  have length := attached.length _ content placed
  rw [attached.same] at placed
  rw [Entry.lines, List.flatMap_nil]
  refine ⟨writer.identity, content, placed, attached.committed ▸ length, ?_⟩
  rw [same, placed, List.append_nil]

/-- The batch if it was written, and nothing if that failed. -/
def landed (batch : List Entry) : Except Failure Nat → List Entry
  | .ok _ => batch
  | .error _ => []

/-- What is appended stands behind what the file held. If that fails nothing does. -/
theorem Attached.find?_append {born : Nat} {writer : SegmentWriter} {active : ActiveSegment}
    (attached : Attached born disk writer active) (obstacles : Obstacles) (batch : List Entry)
    (name : String) :
    (writer.append obstacles disk (Entry.lines batch)).2.2.find? name =
      (disk.modify writer.identity
        (· ++ Entry.lines (landed batch
          (writer.append obstacles disk (Entry.lines batch)).1))).find? name := by
  rw [SegmentWriter.append]
  by_cases whole : writer.succeeds obstacles (Entry.lines batch) = true
  · simp only [if_pos whole, landed]
    rw [(attached.counts name).find?_whole whole, Disk.find?_modify]
  · simp only [if_neg whole, landed]
    rw [(attached.counts name).find?_rollBack, Disk.find?_modify]
    refine (congrFun Option.map_id _).symm.trans (Option.map_congr fun node _ => ?_)
    cases node with
    | directory => rfl
    | file owner content => simp [Node.modified, Entry.lines]

/-- A batch that is appended makes the active file grow, and no other one. -/
theorem grows_append {writer : SegmentWriter} {changed : Journal}
    (coherent : Coherent start { journal, disk }) (stocked : Stocked { journal, disk })
    (present : journal.writer = some writer) (occasion : Occasion) (batch : List Entry)
    (held : changed.held = journal.held) :
    Grows occasion { journal, disk }
      { journal := changed
        disk := (writer.append occasion.obstacles disk (Entry.lines batch)).2.2 }
      (landed batch (writer.append occasion.obstacles disk (Entry.lines batch)).1) := by
  obtain ⟨active, there, attached⟩ := coherent.active_of_writer present
  change journal.catalog.active = some active at there
  have find := attached.find?_append occasion.obstacles batch
  obtain ⟨content, placed⟩ := attached.placed
  have length := attached.length _ content placed
  have only := stocked.alone writer present
  refine
    { others := fun name _ other => ?_
      active := fun same also => ?_
      fresh := fun name free => .inl ?_
      held := fun segment member => .inl (held ▸ member) }
  · rw [find, Disk.find?_modify_other fun content placed => other active there ?_]
    rw [only name content placed, attached.same]
  · rw [there, Option.mem_some] at also
    rw [← also, ← attached.same]
    exact ⟨_, content, placed, attached.committed ▸ length,
      (find _).trans (Disk.find?_modify_self placed)⟩
  · rw [find, Disk.find?_modify, free, Option.map_none]

/-- What is written to a segment that was just made is all that its file holds. -/
theorem Grows.make {writer : SegmentWriter} (grows : Grows occasion middle after written)
    (absent : before.journal.catalog.active = none)
    (made : SegmentWriter.create occasion.obstacles before.disk (before.upcoming occasion) false =
      (.ok writer, middle.disk))
    (active : middle.journal.catalog.active =
      some { segment := before.upcoming occasion, committed := 0 })
    (held : middle.journal.held = before.journal.held ++ [before.upcoming occasion]) :
    Grows occasion before after written := by
  obtain ⟨_, _, free, placed, others⟩ := SegmentWriter.create_ok made
  refine
    { others := fun name there _ => ?_
      active := by simp [absent]
      fresh := fun name none => ?_
      held := fun segment member => ?_ }
  · have other : name ≠ (before.upcoming occasion).name := fun same => there (same ▸ free)
    rw [← others name other] at there ⊢
    refine grows.others name there fun opened present => ?_
    rw [active, Option.mem_some] at present
    rw [← present]
    exact other
  · by_cases new : name = (before.upcoming occasion).name
    · obtain ⟨identity, content, known, _, grown⟩ := grows.active _ active
      rw [placed, Option.some.injEq, Node.file.injEq] at known
      obtain ⟨rfl, rfl⟩ := known
      exact .inr ⟨absent, new, new ▸ grown⟩
    · rcases grows.fresh name ((others name new).trans none) with still | ⟨inactive, _⟩
      · exact .inl still
      · rw [active] at inactive
        contradiction
  · rcases grows.held segment member with known | new
    · rw [held, List.mem_append, List.mem_singleton] at known
      exact known.imp_right fun same => by rw [same, free]
    · refine .inr ?_
      by_cases same : segment.name = (before.upcoming occasion).name
      · exact same ▸ free
      · exact (others segment.name same).symm.trans new

theorem grows_writeBatch (coherent : Coherent start { journal, disk })
    (stocked : Stocked { journal, disk }) (occasion : Occasion) (batch : List Entry) :
    Grows occasion { journal, disk }
      (ofOutcome (journal.writeBatch occasion disk (Entry.lines batch)))
      (landed batch (journal.writeBatch occasion disk (Entry.lines batch)).answer) := by
  cases opened : journal.writer with
  | some writer =>
      have active : journal.activeWriter occasion disk = (.ok writer, journal, disk) := by
        rw [Journal.activeWriter, opened]
      simp only [Journal.writeBatch, active, ofOutcome]
      exact grows_append coherent stocked opened occasion batch rfl
  | none =>
      have absent := coherent.inactive opened
      change journal.catalog.active = none at absent
      simp only [Journal.writeBatch, Journal.activeWriter, opened]
      cases made : SegmentWriter.create occasion.obstacles disk
          (journal.catalog.allocate journal.policy.directory occasion.now).1 false with
      | mk answer later =>
          cases answer with
          | error failure => exact coherent.grows_same (SegmentWriter.create_error made).2 rfl
          | ok writer =>
              have move : Move occasion { journal, disk } _ := .make opened made
              have grown := grows_append (coherent.move move) (stocked.move coherent move) rfl
                occasion batch rfl
              have begun : Grows occasion { journal, disk } _ _ :=
                grown.make absent made rfl (Catalog.takeAll_activate absent _)
              exact begun.congr rfl rfl rfl rfl rfl

theorem grows_flushBuffer (coherent : Coherent start { journal, disk })
    (stocked : Stocked { journal, disk }) (occasion : Occasion) (force : Bool) :
    Grows occasion { journal, disk } (ofOutcome (journal.flushBuffer occasion force disk))
      (reported { journal, disk } (journal.flushBuffer occasion force disk).answer) := by
  have same : Grows occasion { journal, disk } { journal, disk } [] :=
    coherent.grows_same (fun _ => rfl) rfl
  have taken : Move occasion { journal, disk }
      { journal := { journal with buffer := journal.buffer.pending.2 }, disk } :=
    .remember rfl rfl rfl
  have written := grows_writeBatch (coherent.move taken) (stocked.move coherent taken) occasion
    journal.buffer.pending.1
  rw [Journal.flushBuffer]
  split
  · exact same
  · dsimp only
    split
    · exact same.congr rfl rfl rfl rfl rfl
    · split
      · rename_i refused
        rw [Entry.lines, refused] at written
        exact written.congr rfl rfl rfl rfl rfl
      · rename_i length landed
        rw [Entry.lines, landed] at written
        have whole : journal.buffer.entries.toList.take journal.buffer.pending.1.length =
            journal.buffer.pending.1 := List.take_length
        rw [reported, whole]
        exact written.congr rfl rfl rfl (Catalog.takeAll_commit _ _) rfl

theorem grows_serveFlush (coherent : Coherent start { journal, disk })
    (stocked : Stocked { journal, disk }) (occasion : Occasion) (force : Bool) :
    Grows occasion { journal, disk } (ofOutcome (journal.serveFlush occasion force disk))
      (reported { journal, disk } (journal.serveFlush occasion force disk).answer) := by
  rw [Journal.serveFlush]
  split
  · exact grows_flushBuffer coherent stocked occasion force
  · exact coherent.grows_same (fun _ => rfl) rfl

/-!
### Removals
-/

/-- Where segments go only their files do, and those for a reason. -/
theorem Grows.remove {segments : List Segment} {obstacles : Obstacles}
    (grows : Grows occasion before middle written) (stocked : Stocked before)
    (removed : after.disk = (Journal.removeAll obstacles middle.disk segments).2)
    (given : ∀ segment ∈ segments, segment ∈ middle.journal.held)
    (reason : ∀ segment, segment.name ∈ segments.map Segment.name → gone segment) :
    AppendOnly occasion before after written gone := by
  have left : ∀ name, after.disk.find? name = middle.disk.find? name ∨
      after.disk.find? name = none ∧ name ∈ segments.map Segment.name := by
    intro name
    rw [removed]
    by_cases member : name ∈ segments.map Segment.name
    · cases stays : (Journal.removeAll obstacles middle.disk segments).2.find? name with
      | none => exact .inr ⟨rfl, member⟩
      | some node => exact .inl (Indexed.find?_of_find?_removeAll stays).symm
    · exact .inl (Journal.find?_removeAll_ne member)
  have apart := stocked.apart
  rw [Journal.held, Catalog.takeAll, List.map_append, List.nodup_append] at apart
  refine
    { closed := fun segment member => ?_
      active := fun active present => ?_
      foreign := fun name there foreign => ?_
      fresh := fun name free => ?_ }
  · have there : before.disk.find? segment.name ≠ none := by
      have listed := stocked.listed segment (List.mem_append_left _ member)
      rw [Disk.mem_names_iff] at listed
      obtain ⟨node, there⟩ := listed
      simp [there]
    have other : ∀ active ∈ before.journal.catalog.active, segment.name ≠ active.segment.name := by
      intro active present
      rw [Option.mem_def] at present
      exact apart.2.2 _ (List.mem_map_of_mem member) _ (by simp [present])
    rw [← grows.others segment.name there other]
    exact (left segment.name).imp_right (And.imp_right (reason segment))
  · obtain ⟨identity, content, placed, length, grown⟩ := grows.active active present
    refine ⟨identity, content, placed, length, ?_⟩
    rw [← grown]
    exact (left active.segment.name).imp_right (And.imp_right (reason active.segment))
  · have other : ∀ active ∈ before.journal.catalog.active, name ≠ active.segment.name := by
      rintro active present rfl
      refine foreign (List.mem_map_of_mem (List.mem_append_right _ ?_))
      rw [Option.mem_def.mp present]
      exact List.mem_singleton_self _
    rw [← grows.others name there other]
    refine (left name).resolve_right fun removed => ?_
    obtain ⟨segment, listed, rfl⟩ := List.mem_map.mp removed.2
    rcases grows.held segment (given segment listed) with known | new
    · exact foreign (List.mem_map_of_mem known)
    · exact there new
  · rcases left name with still | ⟨none, _⟩
    · rw [still]
      exact grows.fresh name free
    · exact .inl none

/-- A flush lets no segment go. -/
theorem Grows.appendOnly (grows : Grows occasion before after written) (stocked : Stocked before) :
    AppendOnly occasion before after written gone := by
  have none : after.disk = (Journal.removeAll .none after.disk []).2 := rfl
  exact grows.remove stocked none (by simp) (by simp)

/-- A segment that is not among those that are kept, of which there are as many as there may be. -/
def Outdated (policy : Policy) (journal : Journal) (segment : Segment) : Prop :=
  segment ∉ journal.held ∧ policy.keptSegments = some journal.catalog.closed.length

/-- What is given up is outdated afterwards. -/
theorem outdated_of_prune {journal after : Journal} {kept : Option Nat} {policy : Policy}
    {segment : Segment} (apart : (journal.held.map Segment.name).Nodup)
    (pruned : after.catalog = (journal.catalog.prune kept).2) (same : policy.keptSegments = kept)
    (given : segment.name ∈ (journal.catalog.prune kept).1.map Segment.name) :
    Outdated policy after segment := by
  have held : journal.held = (journal.catalog.prune kept).1 ++ after.held := by
    rw [Journal.held, Journal.held, pruned]
    exact (Catalog.takeAll_prune _ _).symm
  rw [held, List.map_append, List.nodup_append] at apart
  refine ⟨fun member => apart.2.2 _ given _ (List.mem_map_of_mem member) rfl, ?_⟩
  obtain ⟨excess, member, _⟩ := List.mem_map.mp given
  rw [same, pruned]
  exact Catalog.keptSegments_of_prune member

theorem appendOnly_serveRotation (coherent : Coherent start { journal, disk })
    (stocked : Stocked { journal, disk }) (occasion : Occasion) :
    AppendOnly occasion { journal, disk } (ofOutcome (journal.serveRotation occasion disk))
      (reported { journal, disk } (journal.serveFlush occasion true disk).answer)
      (Outdated journal.policy (journal.serveRotation occasion disk).journal) := by
  have flushed := grows_flushBuffer coherent stocked occasion true
  have after := ((moves_flushBuffer occasion true journal disk).coherent_stocked coherent stocked).2
  have apart : ((Journal.held { (journal.flushBuffer occasion true disk).journal with
      catalog := (journal.flushBuffer occasion true disk).journal.catalog.closeActive.2
      writer := none }).map Segment.name).Nodup := by
    rw [Journal.held, Catalog.takeAll_closeActive]
    exact after.apart
  rw [Journal.serveRotation, Journal.serveFlush]
  split
  · dsimp only
    split
    · exact flushed.appendOnly stocked
    · split
      · exact flushed.appendOnly stocked
      · refine flushed.remove stocked rfl (fun segment given => ?_) fun segment given =>
          outdated_of_prune apart rfl rfl given
        have held := Catalog.takeAll_prune
          (journal.flushBuffer occasion true disk).journal.catalog.closeActive.2
          journal.policy.keptSegments
        rw [Catalog.takeAll_closeActive] at held
        rw [ofOutcome, Journal.held, ← held]
        exact List.mem_append_left _ given
  · exact (coherent.grows_same (fun _ => rfl) rfl).appendOnly stocked

/-!
### Every operation
-/

/-- The entries that a deed reports to have written, on request or behind the scenes. -/
def reports (archive : Archive) (deed : Deed) : List Entry :=
  let { journal, disk } := archive
  match deed.operation with
  | .flush force => archive.reported (journal.flush deed.occasion force disk).answer
  | .rotate => archive.reported (journal.flush deed.occasion true disk).answer
  | .flushBehind => archive.reported (journal.serveFlush deed.occasion false disk).answer
  | .rotateBehind => archive.reported (journal.serveFlush deed.occasion true disk).answer
  | .add _ | .clear | .reopen _ => []

/-- The entries that the flush of a log that closes reports to have written. -/
def lastReports (archive : Archive) (occasion : Occasion) : List Entry :=
  if archive.journal.closed then []
  else archive.reported
    ({ archive.journal with closed := true }.serveFlush occasion true archive.disk).answer

/-- The segments whose files a deed may remove: all in a clear, and outdated ones in a rotation. -/
def Gone (archive : Archive) (deed : Deed) (segment : Segment) : Prop :=
  match deed.operation with
  | .clear => True
  | .rotate | .rotateBehind =>
    Outdated archive.journal.policy (archive.perform deed).journal segment
  | _ => False

/-- Opening a directory changes no file, and only those of outdated segments may go. -/
def OpensGently (disk : Disk) : Prop :=
  ∀ policy obstacles,
    (∀ failure after, Journal.openOn policy obstacles disk = (.error failure, after) →
      after = disk) ∧
    ∀ journal after, Journal.openOn policy obstacles disk = (.ok journal, after) →
      ∀ name, after.find? name = disk.find? name ∨
        after.find? name = none ∧
          ∃ segment ∈ found policy.directory disk, segment.name = name ∧
            Outdated policy journal segment

/-- What can happen to files from here on. -/
structure Conserving (archive : Archive) : Prop where
  performed : ∀ deed, (∀ policy, deed.operation ≠ .reopen policy) →
    AppendOnly deed.occasion archive (archive.perform deed) (archive.reports deed)
      (archive.Gone deed)
  closing : ∀ occasion,
    AppendOnly occasion archive (ofOutcome (archive.journal.close occasion archive.disk))
      (archive.lastReports occasion) fun _ => False
  opening : OpensGently archive.disk
  /-- What is done with a closed log leaves the log and its directory as they are. -/
  inert : archive.journal.closed = true →
    (∀ deed, (∀ policy, deed.operation ≠ .reopen policy) → deed.operation.isUpkeep = false →
      archive.perform deed = archive) ∧
    (∀ occasion, ofOutcome (archive.journal.close occasion archive.disk) = archive) ∧
    ∀ clock request, archive.journal.search clock request archive.disk = .error .closed
  /-- Whatever comes after a close, a file that was there is what it was while it is there. -/
  final : archive.journal.closed = true → ∀ later, Later archive later →
    ∀ name identity content, identity < archive.disk.nextIdentity →
      later.disk.find? name = some (.file identity content) →
        archive.disk.find? name = some (.file identity content)

theorem opensGently (tidy : IsTidy disk) (single : disk.names.Nodup) : OpensGently disk := by
  intro policy obstacles
  refine ⟨fun failure after refused => ?_, fun journal after opened name => ?_⟩
  · rw [Journal.openOn] at refused
    dsimp only at refused
    split at refused
    · exact (Prod.mk.inj refused).2.symm
    · simp at refused
  · cases files : policy.fileEnabled with
    | false => exact .inl (by rw [(openOn_unfiled files opened).1])
    | true =>
        have apart : ((Journal.openedOn policy disk).held.map Segment.name).Nodup :=
          (Stocked.openedOn tidy single).apart
        obtain ⟨_, rfl, rfl⟩ := openOn_ok files opened
        let excess := ((Journal.openedOn policy disk).catalog.prune policy.keptSegments).1
        by_cases given : name ∈ excess.map Segment.name
        · cases stays : (Journal.removeAll obstacles disk excess).2.find? name with
          | some node => exact .inl (Indexed.find?_of_find?_removeAll stays).symm
          | none =>
              obtain ⟨segment, member, rfl⟩ := List.mem_map.mp given
              refine .inr ⟨rfl, segment, ?_, rfl, outdated_of_prune apart rfl rfl given⟩
              rw [← Journal.mem_held_openedOn, Journal.held,
                ← Catalog.takeAll_prune _ policy.keptSegments]
              exact List.mem_append_left _ member
        · exact .inl (Journal.find?_removeAll_ne given)

theorem Orderly.performed (orderly : Orderly start archive) {deed : Deed}
    (still : ∀ policy, deed.operation ≠ .reopen policy) :
    AppendOnly deed.occasion archive (archive.perform deed) (archive.reports deed)
      (archive.Gone deed) := by
  obtain ⟨coherent, stocked, _⟩ := orderly
  obtain ⟨journal, disk⟩ := archive
  obtain ⟨occasion, operation⟩ := deed
  have same : ∀ {gone}, AppendOnly occasion { journal, disk } { journal, disk } [] gone :=
    (coherent.grows_same (fun _ => rfl) rfl).appendOnly stocked
  cases operation with
  | add exchange =>
      refine Grows.appendOnly (coherent.grows_same (fun _ => rfl) ?_) stocked
      simp only [perform, Journal.add]
      split
      · rfl
      · split <;> rfl
  | flush force =>
      simp only [perform, reports, Journal.flush, Journal.whileOpen]
      split
      · exact same
      · exact (grows_serveFlush coherent stocked occasion force).appendOnly stocked
  | rotate =>
      have rotated := appendOnly_serveRotation coherent stocked occasion
      unfold Gone
      simp only [perform, reports, Journal.flush, Journal.rotate, Journal.whileOpen]
      split
      · exact same
      · exact rotated
  | clear =>
      simp only [perform, reports, Journal.clear, Journal.whileOpen]
      split
      · exact same
      · exact (coherent.grows_same (fun _ => rfl) rfl).remove stocked rfl (fun _ => id)
          fun _ _ => trivial
  | flushBehind => exact (grows_serveFlush coherent stocked occasion false).appendOnly stocked
  | rotateBehind => exact appendOnly_serveRotation coherent stocked occasion
  | reopen policy => exact absurd rfl (still policy)

theorem Orderly.closing (orderly : Orderly start archive) (occasion : Occasion) :
    AppendOnly occasion archive (ofOutcome (archive.journal.close occasion archive.disk))
      (archive.lastReports occasion) gone := by
  obtain ⟨coherent, stocked, _⟩ := orderly
  obtain ⟨journal, disk⟩ := archive
  simp only [Journal.close, lastReports]
  split
  · exact (coherent.grows_same (fun _ => rfl) rfl).appendOnly stocked
  · have closing : Move occasion { journal, disk }
        { journal := { journal with closed := true }, disk } := .remember rfl rfl rfl
    have grows := grows_serveFlush (coherent.move closing) (stocked.move coherent closing) occasion
      true
    refine Grows.appendOnly ?_ stocked
    exact grows.congr rfl rfl rfl (Catalog.takeAll_closeActive _) rfl

/-- In every session on a directory files are only appended to. What a flush reports comes behind
what counted before, closed segments and foreign files do not change, and files go as a whole when
everything is cleared or when they are outdated. A closed log leaves all files as they are, and so
does everything that comes after it. -/
theorem files_append_only (tidy : IsTidy start) (single : start.names.Nodup)
    (numbered : start.Numbered) :
    OpensGently start ∧ ∀ archive, Visited start archive → Conserving archive := by
  refine ⟨opensGently tidy single, fun archive visited => ?_⟩
  have orderly := visited.orderly tidy single numbered
  refine
    { performed := fun deed still => orderly.performed still
      closing := orderly.closing
      opening := opensGently orderly.stocked.tidy orderly.stocked.single
      inert := fun closed => ?_
      final := fun closed later since name identity content old placed => ?_ }
  · refine ⟨fun deed still awake => perform_of_closed closed still awake, close_of_closed closed,
      fun clock request => ?_⟩
    rw [Journal.search, if_pos closed]
  · cases (((orderly.rebase closed).later since).coherent.files name identity content placed).2 with
    | found _ same => exact same
    | made new _ _ => exact absurd old (Nat.not_lt.mpr new)

/-- A record could not be written to its end, so its segment was made and is still empty. -/
def emptyActive : Archive :=
  performAll { journal := (Pipeline.fresh plainPolicy).journal, disk := {} }
    (secondFlushDeeds.take 2)

theorem files_append_only_empty_active :
    emptyActive.journal.buffer.entries.size = 1 ∧
      ∃ active ∈ emptyActive.journal.catalog.active, ∃ identity,
        (emptyActive.perform
            { occasion := { now := default }, operation := .flush true }).disk.find?
          active.segment.name =
            some (.file identity (Entry.lines emptyActive.journal.buffer.entries.toList)) := by
  have opened : Journal.openOn plainPolicy .none {} =
      (.ok (Pipeline.fresh plainPolicy).journal, {}) := by
    rw [← openedOn_missing]
    exact Journal.openOn_eq retains_plainPolicy .none rfl
  have visited : Visited {} emptyActive :=
    ⟨plainPolicy, .none, _, _, opened, later_performAll (by simp [secondFlushDeeds])
      (by simp [secondFlushDeeds, Operation.isUpkeep]) _⟩
  have conserving := (files_append_only
    (by simp [IsTidy, Disk.names, Disk.folder?, Folder.names])
    (by simp [Disk.names, Disk.folder?, Folder.names])
    (by simp [Disk.Numbered, Disk.find?])).2 emptyActive visited
  have nothing : emptyActive.journal.catalog.active.map ActiveSegment.committed = some 0 := by
    decide +kernel
  obtain ⟨active, present, empty⟩ := Option.map_eq_some_iff.mp nothing
  have grown := (conserving.performed
    { occasion := { now := default }, operation := .flush true } (by simp)).active active present
  obtain ⟨identity, content, _, length, grown⟩ := grown
  have none : content = [] := List.eq_nil_of_length_eq_zero (length.trans empty)
  have written : emptyActive.reports
      { occasion := { now := default }, operation := .flush true } =
        emptyActive.journal.buffer.entries.toList := by decide +kernel
  refine ⟨by decide +kernel, active, present, identity, ?_⟩
  rw [none, written, List.nil_append] at grown
  exact grown.resolve_right fun never => never.2

end Archive

end QueryJournal
