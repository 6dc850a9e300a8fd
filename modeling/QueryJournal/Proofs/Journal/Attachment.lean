import QueryJournal.Proofs.Journal.Ordering

namespace QueryJournal.Archive

open QueryJournal.Storage
open QueryJournal.Utf8 (Bytes)

/-!
The active segment of a log. The writer and the index agree on it and on the length of its file, and
every file that the log made holds whole lines.
-/

variable {occasion : Occasion} {archive before after : Archive} {policy : Policy}
  {start disk : Disk}

/-- The writer and the index mean the same segment by the active one, and its file is exactly as
long as both say. No other file has its identity and another length. -/
structure Attached (born : Nat) (disk : Disk) (writer : SegmentWriter) (active : ActiveSegment) :
    Prop where
  same : writer.segment = active.segment
  committed : active.committed = writer.length
  own : born ≤ writer.identity
  placed : ∃ content, disk.find? writer.segment.name = some (.file writer.identity content)
  length : ∀ name content, disk.find? name = some (.file writer.identity content) →
    content.length = writer.length

/-- Where a file comes from: it was there at the start and is what it was, or it was made since and
holds whole lines. -/
inductive Origin (start : Disk) (name : String) (identity : Nat) (content : Bytes) : Prop where
  | found (before : identity < start.nextIdentity)
      (same : start.find? name = some (.file identity content))
  | made (since : start.nextIdentity ≤ identity) (entries : List Entry)
      (lines : content = Entry.lines entries)

/-- The writer, the index and the files agree. -/
structure Coherent (start : Disk) (archive : Archive) : Prop where
  later : start.nextIdentity ≤ archive.disk.nextIdentity
  attached : Option.Rel (Attached start.nextIdentity archive.disk) archive.journal.writer
    archive.journal.catalog.active
  files : ∀ name identity content, archive.disk.find? name = some (.file identity content) →
    identity < archive.disk.nextIdentity ∧ Origin start name identity content

theorem Coherent.inactive (coherent : Coherent start archive)
    (absent : archive.journal.writer = none) : archive.journal.catalog.active = none := by
  have attached := coherent.attached
  rw [absent] at attached
  cases active : archive.journal.catalog.active with
  | none => rfl
  | some _ =>
      rw [active] at attached
      cases attached

theorem Coherent.active_of_writer {writer : SegmentWriter} (coherent : Coherent start archive)
    (present : archive.journal.writer = some writer) :
    ∃ active, archive.journal.catalog.active = some active ∧
      Attached start.nextIdentity archive.disk writer active := by
  have attached := coherent.attached
  rw [present] at attached
  cases active : archive.journal.catalog.active with
  | none =>
      rw [active] at attached
      cases attached
  | some opened =>
      rw [active, Option.rel_some_some] at attached
      exact ⟨opened, rfl, attached⟩

theorem Coherent.writer_of_active {active : ActiveSegment} (coherent : Coherent start archive)
    (present : archive.journal.catalog.active = some active) :
    ∃ writer, Attached start.nextIdentity archive.disk writer active := by
  cases opened : archive.journal.writer with
  | none =>
      rw [coherent.inactive opened] at present
      contradiction
  | some writer =>
      obtain ⟨other, there, attached⟩ := coherent.active_of_writer opened
      rw [present, Option.some.injEq] at there
      exact ⟨writer, there ▸ attached⟩

/-- Nothing changes while every name stands for what it stood for. -/
theorem Coherent.same (coherent : Coherent start before)
    (writer : after.journal.writer = before.journal.writer)
    (active : after.journal.catalog.active = before.journal.catalog.active)
    (count : after.disk.nextIdentity = before.disk.nextIdentity)
    (same : ∀ name, after.disk.find? name = before.disk.find? name) : Coherent start after := by
  refine
    { later := count ▸ coherent.later
      attached := ?_
      files := ?_ }
  · rw [writer, active]
    cases present : before.journal.writer with
    | none =>
        rw [coherent.inactive present]
        exact .none
    | some opened =>
        obtain ⟨segment, there, attached⟩ := coherent.active_of_writer present
        rw [there]
        exact .some
          { same := attached.same
            committed := attached.committed
            own := attached.own
            placed := by simpa only [same] using attached.placed
            length := by simpa only [same] using attached.length }
  · intro name identity content placed
    rw [count]
    exact coherent.files name identity content (same name ▸ placed)

/-- Files may go where no segment is active. -/
theorem Coherent.released (coherent : Coherent start before)
    (writer : after.journal.writer = none) (active : after.journal.catalog.active = none)
    (count : after.disk.nextIdentity = before.disk.nextIdentity)
    (fewer : ∀ name node, after.disk.find? name = some node →
      before.disk.find? name = some node) : Coherent start after :=
  { later := count ▸ coherent.later
    attached := by
      rw [writer, active]
      exact .none
    files := fun name identity content placed =>
      count ▸ coherent.files name identity content (fewer name _ placed) }

theorem Coherent.make {journal : Journal} {later : Disk} {writer : SegmentWriter}
    {segment : Segment} (coherent : Coherent start { journal, disk })
    (made : SegmentWriter.create occasion.obstacles disk segment false = (.ok writer, later))
    (opened : after.journal.writer = some writer)
    (active : after.journal.catalog.active = some { segment, committed := 0 })
    (there : after.disk = later) : Coherent start after := by
  obtain ⟨known, count, free, placed, others⟩ := SegmentWriter.create_ok made
  -- Either this is the new file, with an identity that no earlier one has, or it was there before.
  have cases : ∀ name identity content, later.find? name = some (.file identity content) →
      (identity = disk.nextIdentity ∧ content = []) ∨
        disk.find? name = some (.file identity content) := by
    intro name identity content found
    by_cases new : name = segment.name
    · rw [new, placed] at found
      cases found
      exact .inl ⟨rfl, rfl⟩
    · exact .inr (others name new ▸ found)
  refine
    { later := ?_
      attached := ?_
      files := ?_ }
  · rw [there, count]
    exact Nat.le_succ_of_le coherent.later
  · rw [opened, active, there, known]
    refine .some
      { same := rfl
        committed := rfl
        own := coherent.later
        placed := ⟨[], placed⟩
        length := ?_ }
    intro name content found
    rcases cases name _ content found with ⟨_, rfl⟩ | earlier
    · rfl
    · exact absurd (coherent.files name _ content earlier).1 (Nat.lt_irrefl _)
  · intro name identity content found
    rw [there] at found
    rw [there, count]
    rcases cases name identity content found with ⟨rfl, rfl⟩ | earlier
    · exact ⟨Nat.lt_succ_self _, .made coherent.later [] rfl⟩
    · obtain ⟨below, origin⟩ := coherent.files name identity content earlier
      exact ⟨Nat.lt_succ_of_lt below, origin⟩

variable {born : Nat} {writer : SegmentWriter} {active : ActiveSegment} {obstacles : Obstacles}
  {batch : Bytes}

theorem Attached.counts (attached : Attached born disk writer active) (name : String) :
    writer.Counts disk name :=
  attached.length name

theorem Coherent.land {journal : Journal} {entries : List Entry}
    (coherent : Coherent start { journal, disk }) (present : journal.writer = some writer)
    (whole : writer.succeeds obstacles (Entry.lines entries) = true) :
    Coherent start
      { journal :=
          { journal with
            catalog := journal.catalog.commit (writer.length + (Entry.lines entries).length)
            writer := some
              { writer with length := writer.length + (Entry.lines entries).length } }
        disk := writer.writePart obstacles disk (Entry.lines entries) } := by
  obtain ⟨active, there, attached⟩ := coherent.active_of_writer present
  change journal.catalog.active = some active at there
  have find := fun name => (attached.counts name).find?_whole whole
  have files : ∀ name identity content,
      (writer.writePart obstacles disk (Entry.lines entries)).find? name =
        some (.file identity content) →
      ∃ earlier, disk.find? name = some (.file identity earlier) ∧
        content =
          if identity = writer.identity then earlier ++ Entry.lines entries else earlier := by
    intro name identity content placed
    rw [find, Option.map_eq_some_iff] at placed
    obtain ⟨node, placed, changed⟩ := placed
    cases node with
    | directory => simp [Node.modified] at changed
    | file owner earlier =>
        simp only [Node.modified, Node.file.injEq] at changed
        obtain ⟨rfl, rfl⟩ := changed
        exact ⟨earlier, placed, rfl⟩
  refine
    { later := coherent.later
      attached := ?_
      files := ?_ }
  · simp only [Catalog.commit, there, Option.map_some]
    refine .some
      { same := attached.same
        committed := rfl
        own := attached.own
        placed := ?_
        length := ?_ }
    · obtain ⟨content, placed⟩ := attached.placed
      rw [find, placed]
      exact ⟨_, rfl⟩
    · intro name content placed
      obtain ⟨earlier, before, rfl⟩ := files name _ content placed
      rw [if_pos rfl, List.length_append, attached.length name earlier before]
  · intro name identity content placed
    obtain ⟨earlier, before, rfl⟩ := files name identity content placed
    obtain ⟨below, origin⟩ := coherent.files name identity earlier before
    refine ⟨below, ?_⟩
    split
    · rename_i own
      subst own
      cases origin with
      | found old _ => exact absurd attached.own (Nat.not_le.mpr old)
      | made since older lines =>
          refine .made since (older ++ entries) ?_
          rw [lines, Entry.lines_append]
    · exact origin

theorem nextIdentity_removeAll (obstacles : Obstacles) (disk : Disk) (segments : List Segment) :
    (Journal.removeAll obstacles disk segments).2.nextIdentity = disk.nextIdentity := by
  induction segments generalizing disk with
  | nil => rfl
  | cons segment segments ih =>
      exact (ih _).trans (Disk.nextIdentity_remove obstacles disk segment.name)

theorem Coherent.move (coherent : Coherent start before) (move : Move occasion before after) :
    Coherent start after := by
  cases move with
  | remember policy catalog writer =>
      exact coherent.same writer (congrArg Catalog.active catalog) rfl fun _ => rfl
  | refuse absent refused =>
      obtain ⟨count, same⟩ := SegmentWriter.create_error refused
      exact coherent.same rfl rfl count same
  | make absent made => exact coherent.make made rfl rfl rfl
  | fail batch present =>
      obtain ⟨active, _, attached⟩ := coherent.active_of_writer present
      exact coherent.same rfl rfl rfl (fun name => (attached.counts name).find?_rollBack occasion.obstacles batch)
  | land present whole => exact coherent.land present whole
  | release =>
      exact coherent.released rfl (Catalog.active_closeActive _) rfl fun _ _ placed => placed
  | prune released =>
      refine coherent.released released ?_ (nextIdentity_removeAll _ _ _)
        fun _ _ placed => Indexed.find?_of_find?_removeAll placed
      exact (Catalog.active_prune _ _).trans (coherent.inactive released)

theorem Coherent.clear (coherent : Coherent start archive) (occasion : Occasion) :
    Coherent start (ofOutcome (archive.journal.clear occasion archive.disk)) := by
  rw [Journal.clear, Journal.whileOpen]
  split
  · exact coherent
  · exact coherent.released rfl rfl (nextIdentity_removeAll _ _ _)
      fun _ _ placed => Indexed.find?_of_find?_removeAll placed

/-- A log that is opened has no active segment yet. -/
theorem Coherent.openedOn (later : start.nextIdentity ≤ disk.nextIdentity)
    (files : ∀ name identity content, disk.find? name = some (.file identity content) →
      identity < disk.nextIdentity ∧ Origin start name identity content) :
    Coherent start { journal := Journal.openedOn policy disk, disk } :=
  { later
    attached := .none
    files }

theorem origin_start (numbered : start.Numbered) (name : String) (identity : Nat)
    (content : Bytes) (placed : start.find? name = some (.file identity content)) :
    identity < start.nextIdentity ∧ Origin start name identity content :=
  have old := numbered name identity content placed
  ⟨old, .found old placed⟩

end QueryJournal.Archive
