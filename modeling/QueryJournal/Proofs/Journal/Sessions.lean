import QueryJournal.Proofs.Journal.Clearing
import QueryJournal.Proofs.Journal.Representation
import QueryJournal.Proofs.Segment.Numbering

namespace QueryJournal

open QueryJournal.Segment (IsTidy found)
open QueryJournal.Storage

/-!
Sessions on one directory, one after another, whether or not they record to files. In all of them a
log has the files of its segments apart from each other, and a closed log writes to none.
-/

theorem Segment.nodup_names_found {directory : String} {disk : Disk} (tidy : IsTidy disk)
    (single : disk.names.Nodup) : ((found directory disk).map Segment.name).Nodup := by
  have proper : ∀ name ∈ disk.names.filter isCandidate, Path.IsName name := by
    intro name member
    obtain ⟨member, candidate⟩ := List.mem_filter.mp member
    exact isName_of_isCandidate (tidy name member) candidate
  have whole : found directory disk = discover directory (disk.names.filter isCandidate) := by
    simp [found, discover, List.filter_filter]
  rw [whole, (map_name_discover proper).nodup_iff]
  exact (single.filter _).filter _

def Operation.isUpkeep : Operation → Bool
  | .flushBehind | .rotateBehind => true
  | _ => false

namespace Archive

variable {start disk remaining : Disk} {occasion : Occasion} {archive before after : Archive}
  {policy : Policy} {obstacles : Obstacles} {journal : Journal} {deed : Deed}

/-- What can happen to a log. Its upkeep ends when it is closed, and a log that is opened on the
directory takes its place, whether or not it was closed. -/
inductive Next : Archive → Archive → Prop where
  | performed (archive : Archive) {deed : Deed}
      (still : ∀ policy, deed.operation ≠ .reopen policy)
      (awake : archive.journal.closed = true → deed.operation.isUpkeep = false) :
      Next archive (archive.perform deed)
  | closed (archive : Archive) (occasion : Occasion) :
      Next archive (ofOutcome (archive.journal.close occasion archive.disk))
  | opened {archive : Archive} {policy : Policy} {obstacles : Obstacles} {journal : Journal}
      {disk : Disk} (opened : Journal.openOn policy obstacles archive.disk = (.ok journal, disk)) :
      Next archive { journal, disk }

def Later : Archive → Archive → Prop :=
  Relation.ReflTransGen Next

/-- A log as it can be found between operations, in any session on a directory. -/
def Visited (start : Disk) (archive : Archive) : Prop :=
  ∃ policy obstacles journal disk,
    Journal.openOn policy obstacles start = (.ok journal, disk) ∧ Later { journal, disk } archive

theorem later_performAll {deeds : List Deed}
    (still : ∀ deed ∈ deeds, ∀ policy, deed.operation ≠ .reopen policy)
    (awake : ∀ deed ∈ deeds, deed.operation.isUpkeep = false) (archive : Archive) :
    Later archive (archive.performAll deeds) := by
  induction deeds generalizing archive with
  | nil => exact .refl
  | cons deed deeds ih =>
      have next : Next archive (archive.perform deed) :=
        .performed archive (still deed List.mem_cons_self) fun _ => awake deed List.mem_cons_self
      exact (ih (fun later member => still later (List.mem_cons_of_mem deed member))
        (fun later member => awake later (List.mem_cons_of_mem deed member)) _).head next

/-!
### The files of a log
-/

/-- The segments of a log have files under names of their own, and what the writer writes to stands
under one name only. -/
structure Stocked (archive : Archive) : Prop where
  tidy : IsTidy archive.disk
  single : archive.disk.names.Nodup
  apart : (archive.journal.held.map Segment.name).Nodup
  listed : ∀ segment ∈ archive.journal.held, segment.name ∈ archive.disk.names
  alone : ∀ writer ∈ archive.journal.writer, ∀ name content,
    archive.disk.find? name = some (.file writer.identity content) → name = writer.segment.name

theorem find?_of_find?_modify {identity owner : Nat} {change : Utf8.Bytes → Utf8.Bytes}
    {name : String} {content : Utf8.Bytes}
    (placed : (disk.modify identity change).find? name = some (.file owner content)) :
    ∃ earlier, disk.find? name = some (.file owner earlier) := by
  rw [Disk.find?_modify, Option.map_eq_some_iff] at placed
  obtain ⟨node, there, changed⟩ := placed
  cases node with
  | directory => simp [Node.modified] at changed
  | file other earlier =>
      simp only [Node.modified, Node.file.injEq] at changed
      exact ⟨earlier, changed.1 ▸ there⟩

/-- Nothing changes while the names stay and the writer has no other file. -/
theorem Stocked.same (stocked : Stocked before) (held : after.journal.held = before.journal.held)
    (names : after.disk.names = before.disk.names)
    (alone : ∀ writer ∈ after.journal.writer, ∀ name content,
      after.disk.find? name = some (.file writer.identity content) →
        ∃ same ∈ before.journal.writer, same.segment = writer.segment ∧
          ∃ earlier, before.disk.find? name = some (.file same.identity earlier)) :
    Stocked after := by
  refine
    { tidy := ?_
      single := names ▸ stocked.single
      apart := held ▸ stocked.apart
      listed := ?_
      alone := ?_ }
  · rw [IsTidy, names]
    exact stocked.tidy
  · rw [held, names]
    exact stocked.listed
  · intro writer present name content placed
    obtain ⟨same, earlier, segment, before, there⟩ := alone writer present name content placed
    rw [← segment]
    exact stocked.alone same earlier name before there

/-- Where no segment is active the oldest ones may go. -/
theorem Stocked.fewer {segments : List Segment} (stocked : Stocked before)
    (released : after.journal.writer = none)
    (held : before.journal.held = segments ++ after.journal.held)
    (removed : after.disk = (Journal.removeAll obstacles before.disk segments).2) :
    Stocked after := by
  have fewer : after.disk.names.Sublist before.disk.names := by
    rw [removed]
    exact Indexed.names_removeAll _ _ _
  have apart := stocked.apart
  rw [held, List.map_append, List.nodup_append] at apart
  refine
    { tidy := fun name member => stocked.tidy name (fewer.subset member)
      single := stocked.single.sublist fewer
      apart := apart.2.1
      listed := ?_
      alone := by simp [released] }
  intro segment member
  have other : segment.name ∉ segments.map Segment.name := fun gone =>
    apart.2.2 _ gone _ (List.mem_map_of_mem member) rfl
  rw [removed, Disk.mem_names_iff, Journal.find?_removeAll_ne other, ← Disk.mem_names_iff]
  exact stocked.listed segment (held ▸ List.mem_append_right segments member)

theorem Stocked.make {segment : Segment} {writer : SegmentWriter} (stocked : Stocked before)
    (numbered : before.disk.Numbered) (proper : '/' ∉ segment.name.toList)
    (made : SegmentWriter.create obstacles before.disk segment false = (.ok writer, after.disk))
    (held : after.journal.held = before.journal.held ++ [segment])
    (opened : after.journal.writer = some writer) : Stocked after := by
  obtain ⟨known, _, free, placed, others⟩ := SegmentWriter.create_ok made
  have names := (SegmentWriter.names_create_ok made).2
  have fresh : segment.name ∉ before.disk.names := by
    rw [Disk.mem_names_iff, free]
    simp
  refine
    { tidy := ?_
      single := ?_
      apart := ?_
      listed := ?_
      alone := ?_ }
  · intro name member
    rw [names, List.mem_append, List.mem_singleton] at member
    rcases member with earlier | rfl
    · exact stocked.tidy name earlier
    · exact proper
  · rw [names]
    exact stocked.single.append (List.nodup_singleton _) (by simpa using fresh)
  · rw [held, List.map_append, List.map_singleton]
    refine stocked.apart.append (List.nodup_singleton _) ?_
    rw [List.disjoint_singleton]
    intro shared
    obtain ⟨other, member, same⟩ := List.mem_map.mp shared
    exact fresh (same ▸ stocked.listed other member)
  · intro other member
    rw [names, List.mem_append]
    rw [held, List.mem_append, List.mem_singleton] at member
    rcases member with earlier | rfl
    · exact .inl (stocked.listed other earlier)
    · exact .inr (List.mem_singleton_self _)
  · intro own present name content there
    rw [opened, Option.mem_some] at present
    rw [← present, known] at there ⊢
    by_contra other
    rw [others name other] at there
    exact Nat.lt_irrefl _ (numbered name _ content there)

theorem Coherent.numbered (coherent : Coherent start archive) : archive.disk.Numbered :=
  fun name identity content placed => (coherent.files name identity content placed).1

theorem Stocked.move (stocked : Stocked before) (coherent : Coherent start before)
    (move : Move occasion before after) : Stocked after := by
  cases move with
  | remember policy catalog writer =>
      refine stocked.same ?_ rfl fun same present name content placed => ?_
      · rw [Journal.held, Journal.held, catalog]
      · exact ⟨same, writer ▸ present, rfl, content, placed⟩
  | refuse absent refused =>
      refine stocked.same rfl ?_ fun same present => ?_
      · rw [Disk.names, Disk.names, SegmentWriter.folder?_create_error refused]
      · rw [absent] at present
        cases present
  | make absent made =>
      refine stocked.make coherent.numbered ?_ made
        (Catalog.takeAll_activate (coherent.inactive absent) _) rfl
      rw [Catalog.allocate, Segment.name_inDirectory]
      exact (Segment.isName_fileName _ _).1
  | fail batch present =>
      refine stocked.same rfl (by simp [SegmentWriter.rollBack, SegmentWriter.writePart])
        fun same there name content placed => ?_
      obtain ⟨_, written⟩ := find?_of_find?_modify placed
      exact ⟨same, there, rfl, find?_of_find?_modify written⟩
  | @land _ _ writer _ present whole =>
      refine stocked.same (Catalog.takeAll_commit _ _) (by simp [SegmentWriter.writePart])
        fun same there name content placed => ?_
      cases there
      exact ⟨writer, present, rfl, find?_of_find?_modify placed⟩
  | release =>
      refine stocked.same (Catalog.takeAll_closeActive _) rfl fun _ absent => ?_
      exact absurd absent (Option.not_mem_none _)
  | prune released =>
      exact stocked.fewer released (Catalog.takeAll_prune _ _).symm rfl

theorem Stocked.openedOn (tidy : IsTidy disk) (single : disk.names.Nodup) :
    Stocked { journal := Journal.openedOn policy disk, disk } := by
  refine
    { tidy
      single
      apart := ?_
      listed := ?_
      alone := fun _ absent => absurd absent (Option.not_mem_none _) }
  · rw [Journal.held_openedOn]
    exact ((Segment.sorted_perm _).map Segment.name).nodup_iff.mpr
      (Segment.nodup_names_found tidy single)
  · intro segment member
    exact ((Segment.mem_found tidy).mp (Journal.mem_held_openedOn.mp member)).1

/-!
### Every session
-/

/-- The log and its files agree, and a log that is closed has no file open. -/
structure Orderly (start : Disk) (archive : Archive) : Prop where
  coherent : Coherent start archive
  stocked : Stocked archive
  shut : archive.journal.closed = true → archive.journal.writer = none

/-- A log that does not record to files finds no segment and leaves the directory as it is. -/
theorem openOn_unfiled_eq (unfiled : policy.fileEnabled = false) (obstacles : Obstacles)
    (disk : Disk) : Journal.openOn policy obstacles disk =
      (.ok
        { policy
          buffer := Buffer.new policy.memorySize false
          catalog := { closed := [], active := none, nextNumber := 1 }
          writer := none
          closed := false
          encodeFailures := 0
          failedFlushes := 0 }, disk) := by
  have nothing : Catalog.ofExisting (Segment.discover policy.directory []) =
      { closed := [], active := none, nextNumber := 1 } := by
    simp [Segment.discover, Segment.sorted, Catalog.ofExisting]
  have empty : ({ closed := [], active := none, nextNumber := 1 } : Catalog).prune
      policy.keptSegments = ([], { closed := [], active := none, nextNumber := 1 }) := by
    cases policy.keptSegments <;> simp [Catalog.prune]
  rw [Journal.openOn, if_neg (ne_true_of_eq_false unfiled)]
  simp only [nothing, empty, unfiled]
  rfl

theorem openOn_unfiled (unfiled : policy.fileEnabled = false)
    (opened : Journal.openOn policy obstacles disk = (.ok journal, remaining)) :
    remaining = disk ∧ journal.policy = policy ∧ journal.held = [] ∧ journal.writer = none := by
  rw [openOn_unfiled_eq unfiled, Prod.mk.injEq, Except.ok.injEq] at opened
  obtain ⟨rfl, rfl⟩ := opened
  exact ⟨rfl, rfl, rfl, rfl⟩

/-- A log that is opened is orderly, whatever log was on the directory before. -/
theorem Orderly.openOn (known : start.nextIdentity ≤ disk.nextIdentity)
    (origins : ∀ name identity content, disk.find? name = some (.file identity content) →
      identity < disk.nextIdentity ∧ Origin start name identity content)
    (tidy : IsTidy disk) (single : disk.names.Nodup)
    (opened : Journal.openOn policy obstacles disk = (.ok journal, remaining)) :
    Orderly start { journal, disk := remaining } := by
  cases files : policy.fileEnabled with
  | false =>
      obtain ⟨rfl, -, held, writer⟩ := openOn_unfiled files opened
      have active : journal.catalog.active = none := by
        have none := (List.append_eq_nil_iff.mp held).2
        simpa using none
      refine
        { coherent := ⟨known, ?_, origins⟩
          stocked := ⟨tidy, single, ?_, ?_, ?_⟩
          shut := fun _ => writer }
      · rw [writer, active]
        exact .none
      · simp [held]
      · simp [held]
      · simp [writer]
  | true =>
      have coherent : Coherent start { journal := Journal.openedOn policy disk, disk } :=
        .openedOn known origins
      have move : Move { now := default, obstacles } _ { journal, disk := remaining } :=
        move_openOn files opened
      refine
        { coherent := coherent.move move
          stocked := (Stocked.openedOn tidy single).move coherent move
          shut := fun _ => ?_ }
      obtain ⟨_, rfl, _⟩ := openOn_ok files opened
      rfl

/-- What is done with a closed log changes neither the log nor its directory. -/
theorem perform_of_closed (closed : archive.journal.closed = true)
    (still : ∀ policy, deed.operation ≠ .reopen policy)
    (awake : deed.operation.isUpkeep = false) : archive.perform deed = archive := by
  obtain ⟨journal, disk⟩ := archive
  obtain ⟨occasion, operation⟩ := deed
  change journal.closed = true at closed
  cases operation with
  | add exchange => simp [perform, Journal.add, closed]
  | flush force => simp [perform, ofOutcome, Journal.flush, Journal.whileOpen, closed]
  | rotate => simp [perform, ofOutcome, Journal.rotate, Journal.whileOpen, closed]
  | clear => simp [perform, ofOutcome, Journal.clear, Journal.whileOpen, closed]
  | flushBehind | rotateBehind => cases awake
  | reopen policy => exact absurd rfl (still policy)

theorem close_of_closed (closed : archive.journal.closed = true) (occasion : Occasion) :
    ofOutcome (archive.journal.close occasion archive.disk) = archive := by
  rw [Journal.close, if_pos closed]
  rfl

theorem sameSettings_perform (archive : Archive)
    (still : ∀ policy, deed.operation ≠ .reopen policy) :
    SameSettings (archive.perform deed).journal archive.journal := by
  obtain ⟨journal, disk⟩ := archive
  obtain ⟨occasion, operation⟩ := deed
  cases operation with
  | add exchange => exact sameSettings_add occasion exchange journal
  | flush force => exact sameSettings_whileOpen (sameSettings_serveFlush occasion force _ _) disk
  | rotate => exact sameSettings_whileOpen (sameSettings_serveRotation occasion _ _) disk
  | clear => exact sameSettings_clear occasion journal disk
  | flushBehind => exact sameSettings_serveFlush occasion false journal disk
  | rotateBehind => exact sameSettings_serveRotation occasion journal disk
  | reopen policy => exact absurd rfl (still policy)

theorem writer_close (orderly : Orderly start archive) (occasion : Occasion) :
    (archive.journal.close occasion archive.disk).journal.writer = none := by
  by_cases closed : archive.journal.closed = true
  · rw [Journal.close, if_pos closed]
    exact orderly.shut closed
  · rw [Journal.close, if_neg closed]

theorem Moves.coherent_stocked (moves : Moves occasion before after)
    (coherent : Coherent start before) (stocked : Stocked before) :
    Coherent start after ∧ Stocked after := by
  have step : ∀ {former next : Archive}, Coherent start former ∧ Stocked former →
      Move occasion former next → Coherent start next ∧ Stocked next :=
    fun kept move => ⟨kept.1.move move, kept.2.move kept.1 move⟩
  exact moves.preserve step ⟨coherent, stocked⟩

theorem Stocked.clear (stocked : Stocked archive) (occasion : Occasion) :
    Stocked (ofOutcome (archive.journal.clear occasion archive.disk)) := by
  rw [Journal.clear, Journal.whileOpen]
  split
  · exact stocked
  · exact stocked.fewer rfl (List.append_nil _).symm rfl

theorem Orderly.next (orderly : Orderly start before) (next : Next before after) :
    Orderly start after := by
  obtain ⟨coherent, stocked, shut⟩ := id orderly
  cases next with
  | @performed deed still awake =>
      have kept : Coherent start (before.perform deed) ∧ Stocked (before.perform deed) := by
        rcases perform_cases before still with moves | cleared
        · exact moves.coherent_stocked coherent stocked
        · rw [cleared]
          exact ⟨coherent.clear deed.occasion, stocked.clear deed.occasion⟩
      refine ⟨kept.1, kept.2, fun closed => ?_⟩
      rw [(sameSettings_perform before still).2] at closed
      rw [perform_of_closed closed still (awake closed)]
      exact shut closed
  | closed occasion =>
      have kept := (moves_close occasion before.journal before.disk).coherent_stocked coherent
        stocked
      exact ⟨kept.1, kept.2, fun _ => writer_close orderly occasion⟩
  | opened opened =>
      exact .openOn coherent.later coherent.files stocked.tidy stocked.single opened

theorem Orderly.later (orderly : Orderly start before) (later : Later before after) :
    Orderly start after := by
  induction later with
  | refl => exact orderly
  | tail _ next ih => exact ih.next next

theorem Visited.orderly (tidy : IsTidy start) (single : start.names.Nodup)
    (numbered : start.Numbered) (visited : Visited start archive) : Orderly start archive := by
  obtain ⟨policy, obstacles, journal, disk, opened, later⟩ := visited
  have first : Orderly start { journal, disk } :=
    .openOn (Nat.le_refl _) (origin_start numbered) tidy single opened
  exact first.later later

/-- A log that is closed has nothing to do with the files that are made after it. -/
theorem Orderly.rebase (orderly : Orderly start archive) (closed : archive.journal.closed = true) :
    Orderly archive.disk archive := by
  obtain ⟨coherent, stocked, shut⟩ := orderly
  refine
    { coherent := ⟨Nat.le_refl _, ?_, origin_start coherent.numbered⟩
      stocked
      shut }
  rw [shut closed, coherent.inactive (shut closed)]
  exact .none

end Archive

end QueryJournal
