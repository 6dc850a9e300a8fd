import QueryJournal.Proofs.Journal.Operations
import QueryJournal.Proofs.Segment.Discovery

namespace QueryJournal

open QueryJournal.Segment (Fits IsTidy found)
open QueryJournal.Storage
open QueryJournal.Utf8 (Bytes)

/-!
The index of a log and its directory. Whoever opens the directory anew finds the segments that the
index holds, in the same order. What else is found there are directories that nobody removes.
-/

/-- The segments that the index holds, oldest first. -/
def Journal.held (journal : Journal) : List Segment :=
  journal.catalog.takeAll.1

/-- The index of the log agrees with its directory. -/
structure Indexed (journal : Journal) (disk : Disk) : Prop where
  usable : disk.IsUsable
  tidy : IsTidy disk
  distinct : ((found journal.policy.directory disk).map Segment.number).Nodup
  below : ∀ segment ∈ found journal.policy.directory disk,
    segment.number < journal.catalog.nextNumber
  listed : ∀ segment ∈ journal.held, segment ∈ found journal.policy.directory disk
  ascending : journal.held.Pairwise fun older newer => older.number < newer.number
  known : ∀ segment ∈ found journal.policy.directory disk, ∀ identity content,
    disk.find? segment.name = some (.file identity content) → segment ∈ journal.held

namespace Indexed

variable {journal after : Journal} {disk later : Disk} {occasion : Occasion}
  {obstacles : Obstacles} {writer : SegmentWriter} {failure : Failure} {batch : Bytes}

/-- Nothing changes for the index while the names stay and no file comes in their place. -/
theorem same (indexed : Indexed journal disk)
    (directory : after.policy.directory = journal.policy.directory)
    (held : after.held = journal.held)
    (next : journal.catalog.nextNumber ≤ after.catalog.nextNumber) (usable : later.IsUsable)
    (names : later.names = disk.names)
    (files : ∀ name identity content, later.find? name = some (.file identity content) →
      ∃ before, disk.find? name = some (.file identity before)) : Indexed after later := by
  have segments : found after.policy.directory later = found journal.policy.directory disk := by
    rw [found, found, directory, names]
  refine
    { usable
      tidy := ?_
      distinct := ?_
      below := ?_
      listed := ?_
      ascending := ?_
      known := ?_ }
  · rw [IsTidy, names]
    exact indexed.tidy
  · rw [segments]
    exact indexed.distinct
  · rw [segments]
    exact fun segment member => Nat.lt_of_lt_of_le (indexed.below segment member) next
  · rw [segments, held]
    exact indexed.listed
  · rw [held]
    exact indexed.ascending
  · rw [segments, held]
    intro segment member identity content placed
    obtain ⟨before, there⟩ := files _ _ _ placed
    exact indexed.known segment member identity before there

theorem remember (indexed : Indexed journal disk) (policy : after.policy = journal.policy)
    (catalog : after.catalog = journal.catalog) : Indexed after disk :=
  indexed.same (by rw [policy]) (by rw [Journal.held, Journal.held, catalog])
    (by rw [catalog]) indexed.usable rfl fun _ _ content placed => ⟨content, placed⟩

theorem modify (indexed : Indexed journal disk) (identity : Nat) (change : Bytes → Bytes) :
    Indexed journal (disk.modify identity change) := by
  refine indexed.same rfl rfl (Nat.le_refl _) (indexed.usable.modify _ _)
    (Disk.names_modify _ _ _) fun name owner content placed => ?_
  rw [Disk.find?_modify, Option.map_eq_some_iff] at placed
  obtain ⟨node, there, changed⟩ := placed
  cases node with
  | directory => simp [Node.modified] at changed
  | file other before =>
      simp only [Node.modified, Node.file.injEq] at changed
      exact ⟨before, changed.1 ▸ there⟩

/-!
### A new segment
-/

theorem refuse (indexed : Indexed journal disk) {segment : Segment}
    (catalog : after.catalog = { journal.catalog with nextNumber := journal.catalog.nextNumber + 1 })
    (policy : after.policy = journal.policy)
    (refused : SegmentWriter.create obstacles disk segment false = (.error failure, later)) :
    Indexed after later := by
  have still := SegmentWriter.folder?_create_error refused
  refine indexed.same (by rw [policy]) (by rw [Journal.held, Journal.held, catalog]; rfl)
    (by rw [catalog]; exact Nat.le_succ _) ?_ (by rw [Disk.names, still, Disk.names]) ?_
  · rw [Disk.IsUsable, still]
    exact indexed.usable
  · intro name identity content placed
    exact ⟨content, (SegmentWriter.create_error refused).2 name ▸ placed⟩

/-- A new segment is the newest one, in the index as in the directory. -/
theorem make (indexed : Indexed journal disk) (absent : journal.catalog.active = none)
    (fits : Fits journal.catalog.nextNumber occasion.now.truncated)
    (policy : after.policy = journal.policy)
    (catalog : after.catalog =
      (journal.catalog.allocate journal.policy.directory occasion.now).2.activate
        (journal.catalog.allocate journal.policy.directory occasion.now).1)
    (made : SegmentWriter.create obstacles disk
      (journal.catalog.allocate journal.policy.directory occasion.now).1 false =
        (.ok writer, later)) : Indexed after later := by
  obtain ⟨usable, names⟩ := SegmentWriter.names_create_ok made
  obtain ⟨_, _, free, placed, others⟩ := SegmentWriter.create_ok made
  have perm := Segment.found_perm_of_made fits names
  have held : after.held = journal.held ++
      [Segment.inDirectory journal.policy.directory journal.catalog.nextNumber occasion.now] := by
    rw [Journal.held, Journal.held, catalog]
    simp [Catalog.takeAll, Catalog.activate, Catalog.allocate, absent]
  have next : after.catalog.nextNumber = journal.catalog.nextNumber + 1 := by
    rw [catalog]
    rfl
  have members : ∀ segment, segment ∈ found after.policy.directory later ↔
      segment ∈ found journal.policy.directory disk ∨ segment =
        Segment.inDirectory journal.policy.directory journal.catalog.nextNumber occasion.now := by
    intro segment
    rw [policy, perm.mem_iff, List.mem_append, List.mem_singleton]
  refine
    { usable
      tidy := ?_
      distinct := ?_
      below := ?_
      listed := ?_
      ascending := ?_
      known := ?_ }
  · intro name member
    rw [names, List.mem_append, List.mem_singleton] at member
    rcases member with before | rfl
    · exact indexed.tidy name before
    · exact (Segment.name_inDirectory _ _ _ ▸ Segment.isName_fileName _ _ : Path.IsName _).1
  · rw [policy, (perm.map Segment.number).nodup_iff, List.map_append]
    refine indexed.distinct.append (List.nodup_singleton _) ?_
    intro number earlier new
    obtain ⟨segment, member, rfl⟩ := List.mem_map.mp earlier
    rw [List.map_singleton, List.mem_singleton] at new
    exact absurd (indexed.below segment member) (new ▸ Nat.lt_irrefl _)
  · intro segment member
    rw [next]
    rcases (members segment).mp member with before | rfl
    · exact Nat.lt_succ_of_lt (indexed.below segment before)
    · exact Nat.lt_succ_self _
  · intro segment member
    rw [held, List.mem_append, List.mem_singleton] at member
    exact (members segment).mpr (member.imp_left (indexed.listed segment))
  · rw [held, List.pairwise_append]
    refine ⟨indexed.ascending, List.pairwise_singleton _ _, ?_⟩
    intro older member newer last
    rw [List.mem_singleton.mp last]
    exact indexed.below older (indexed.listed older member)
  · intro segment member identity content there
    rw [held, List.mem_append, List.mem_singleton]
    refine ((members segment).mp member).imp_left fun before => ?_
    have different : segment.name ≠
        (journal.catalog.allocate journal.policy.directory occasion.now).1.name := by
      intro same
      obtain ⟨node, taken⟩ := Segment.find?_of_mem_found indexed.tidy before
      rw [same, free] at taken
      contradiction
    exact indexed.known segment before identity content (others _ different ▸ there)

/-!
### Operations
-/

theorem activeWriter (indexed : Indexed journal disk)
    (shut : journal.writer = none → journal.catalog.active = none)
    (fits : Fits journal.catalog.nextNumber occasion.now.truncated) :
    Indexed (journal.activeWriter occasion disk).2.1 (journal.activeWriter occasion disk).2.2 := by
  rw [Journal.activeWriter]
  split
  · exact indexed
  · rename_i absent
    dsimp only
    split
    · rename_i refused
      exact indexed.refuse rfl rfl refused
    · rename_i made
      exact indexed.make (shut absent) fits rfl rfl made

theorem append (indexed : Indexed journal disk) (writer : SegmentWriter) (batch : Bytes) :
    Indexed journal (writer.append obstacles disk batch).2.2 := by
  rw [SegmentWriter.append]
  split
  · exact indexed.modify _ _
  · exact (indexed.modify _ _).modify _ _

theorem writeBatch (indexed : Indexed journal disk)
    (shut : journal.writer = none → journal.catalog.active = none)
    (fits : Fits journal.catalog.nextNumber occasion.now.truncated) (batch : Bytes) :
    Indexed (journal.writeBatch occasion disk batch).journal
      (journal.writeBatch occasion disk batch).disk := by
  have opened := indexed.activeWriter shut fits
  rw [Journal.writeBatch]
  split
  · rename_i refused
    rw [refused] at opened
    exact opened
  · rename_i writer _ _ made
    rw [made] at opened
    exact (opened.append writer batch).remember rfl rfl

theorem commit (indexed : Indexed journal disk) (length : Nat) :
    Indexed { journal with catalog := journal.catalog.commit length } disk := by
  refine indexed.same rfl ?_ (Nat.le_refl _) indexed.usable rfl
    fun _ _ content placed => ⟨content, placed⟩
  simp [Journal.held, Catalog.takeAll, Catalog.commit, Option.map_map, Function.comp_def]

theorem flushBuffer (indexed : Indexed journal disk)
    (shut : journal.writer = none → journal.catalog.active = none)
    (fits : Fits journal.catalog.nextNumber occasion.now.truncated) (force : Bool) :
    Indexed (journal.flushBuffer occasion force disk).journal
      (journal.flushBuffer occasion force disk).disk := by
  rw [Journal.flushBuffer]
  split
  · exact indexed
  · dsimp only
    have taken : Indexed { journal with buffer := journal.buffer.pending.2 } disk :=
      indexed.remember rfl rfl
    split
    · exact taken
    · have written := taken.writeBatch shut fits
        (journal.buffer.pending.1.flatMap Entry.line)
      split
      · exact written.remember rfl rfl
      · exact (written.commit _).remember rfl rfl

theorem serveFlush (indexed : Indexed journal disk)
    (shut : journal.writer = none → journal.catalog.active = none)
    (fits : Fits journal.catalog.nextNumber occasion.now.truncated) (force : Bool) :
    Indexed (journal.serveFlush occasion force disk).journal
      (journal.serveFlush occasion force disk).disk := by
  rw [Journal.serveFlush]
  split
  · exact indexed.flushBuffer shut fits force
  · exact indexed

theorem closeActive (indexed : Indexed journal disk) :
    Indexed { journal with catalog := journal.catalog.closeActive.2 } disk := by
  have held : Journal.held { journal with catalog := journal.catalog.closeActive.2 } =
      journal.held := by
    rw [Journal.held, Journal.held, Catalog.closeActive]
    cases active : journal.catalog.active <;> simp [Catalog.takeAll, active]
  have next : journal.catalog.closeActive.2.nextNumber = journal.catalog.nextNumber := by
    rw [Catalog.closeActive]
    split <;> rfl
  exact indexed.same rfl held (Nat.le_of_eq next.symm) indexed.usable rfl
    fun _ _ content placed => ⟨content, placed⟩

theorem serveRotation (indexed : Indexed journal disk)
    (shut : journal.writer = none → journal.catalog.active = none)
    (fits : Fits journal.catalog.nextNumber occasion.now.truncated)
    (keeps : journal.policy.keptSegments = none) :
    Indexed (journal.serveRotation occasion disk).journal
      (journal.serveRotation occasion disk).disk := by
  have flushed := indexed.flushBuffer shut fits true
  rw [Journal.serveRotation]
  split
  · dsimp only
    split
    · exact flushed
    · split
      · exact flushed
      · rw [keeps, Pipeline.prune_none]
        exact flushed.closeActive.remember rfl rfl
  · exact indexed

theorem close (indexed : Indexed journal disk)
    (shut : journal.writer = none → journal.catalog.active = none)
    (fits : Fits journal.catalog.nextNumber occasion.now.truncated) :
    Indexed (journal.close occasion disk).journal (journal.close occasion disk).disk := by
  have closed : Indexed { journal with closed := true } disk := indexed.remember rfl rfl
  rw [Journal.close]
  split
  · exact indexed
  · exact (closed.serveFlush shut fits true).closeActive.remember rfl rfl

theorem add (indexed : Indexed journal disk) (exchange : Exchange) :
    Indexed (journal.add occasion.now exchange).2 disk := by
  rw [Journal.add]
  split
  · exact indexed
  · split
    · exact indexed.remember rfl rfl
    · exact indexed.remember rfl rfl

/-!
### Removing segments
-/

theorem names_removeAll (obstacles : Obstacles) (disk : Disk) (segments : List Segment) :
    (Journal.removeAll obstacles disk segments).2.names.Sublist disk.names := by
  induction segments generalizing disk with
  | nil => exact List.Sublist.refl _
  | cons segment segments ih => exact (ih _).trans (Disk.names_remove obstacles disk segment.name)

theorem isUsable_removeAll (usable : disk.IsUsable) (obstacles : Obstacles)
    (segments : List Segment) : (Journal.removeAll obstacles disk segments).2.IsUsable := by
  induction segments generalizing disk with
  | nil => exact usable
  | cons segment segments ih => exact ih (usable.remove obstacles segment.name)

theorem find?_of_find?_removeAll {name : String} {node : Node} {segments : List Segment}
    (placed : (Journal.removeAll obstacles disk segments).2.find? name = some node) :
    disk.find? name = some node := by
  induction segments generalizing disk with
  | nil => exact placed
  | cons segment segments ih => exact Disk.find?_of_find?_remove (ih placed)

/-- A name that is left stands for what it stood for. -/
theorem find?_removeAll_of_mem {name : String} {segments : List Segment}
    (there : name ∈ (Journal.removeAll obstacles disk segments).2.names) :
    (Journal.removeAll obstacles disk segments).2.find? name = disk.find? name := by
  obtain ⟨node, placed⟩ := Disk.mem_names_iff.mp there
  rw [placed, find?_of_find?_removeAll placed]

/-- Where nothing is refused no file of a segment is left. -/
theorem find?_removeAll_file (allowed : ∀ name, obstacles.refusesRemoval name = false)
    {segments : List Segment} {segment : Segment} (member : segment ∈ segments) (identity : Nat)
    (content : Bytes) : (Journal.removeAll obstacles disk segments).2.find? segment.name ≠
      some (.file identity content) := by
  induction segments generalizing disk with
  | nil => simp at member
  | cons first segments ih =>
      rcases List.mem_cons.mp member with rfl | later
      · intro placed
        exact Disk.find?_remove_file (allowed segment.name) disk (find?_of_find?_removeAll placed)
      · exact ih later

/-- After a clear the index is empty, and no file of a segment is left in the directory. -/
theorem clear (indexed : Indexed journal disk)
    (allowed : ∀ name, occasion.obstacles.refusesRemoval name = false) :
    Indexed (journal.clear occasion disk).journal (journal.clear occasion disk).disk := by
  rw [Journal.clear, Journal.whileOpen]
  split
  · exact indexed
  · have fewer := names_removeAll occasion.obstacles disk journal.held
    have before : ∀ segment ∈ found journal.policy.directory
        (Journal.removeAll occasion.obstacles disk journal.held).2,
          segment ∈ found journal.policy.directory disk :=
      fun segment member => Segment.mem_found_of_sublist indexed.tidy fewer member
    exact
      { usable := isUsable_removeAll indexed.usable _ _
        tidy := fun name member => indexed.tidy name (fewer.subset member)
        distinct := Segment.nodup_numbers_of_sublist fewer indexed.distinct
        below := fun segment member => indexed.below segment (before segment member)
        listed := by simp [Journal.held, Catalog.takeAll]
        ascending := .nil
        known := by
          intro segment member identity content placed
          have there := find?_of_find?_removeAll placed
          have held := indexed.known segment (before segment member) identity content there
          exact absurd placed (find?_removeAll_file allowed held identity content) }

end Indexed

end QueryJournal
