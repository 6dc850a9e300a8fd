import QueryJournal.Proofs.Storage.Names
import QueryJournal.Segment.Writer

namespace QueryJournal.SegmentWriter

open QueryJournal.Storage
open QueryJournal.Utf8 (Bytes)

/-!
What it means for a segment that its file was made, or could not be made, and what an append does to
the file under a name.
-/

variable {obstacles : Obstacles} {disk after : Disk} {segment : Segment} {syncs : Bool}
  {writer : SegmentWriter} {failure : Failure} {name : String} {batch : Bytes}

theorem disk_create_ok (made : create obstacles disk segment syncs = (.ok writer, after)) :
    disk.create obstacles segment.name [] = (.ok writer.identity, after) ∧
      writer = { segment, identity := writer.identity, length := 0, syncs } := by
  cases created : disk.create obstacles segment.name [] with
  | mk answer later =>
      cases answer with
      | error failure => simp [create, created, Except.map] at made
      | ok identity =>
          simp only [create, created, Except.map, Prod.mk.injEq, Except.ok.injEq] at made
          obtain ⟨rfl, rfl⟩ := made
          exact ⟨rfl, rfl⟩

theorem disk_create_error
    (refused : create obstacles disk segment syncs = (.error failure, after)) :
    disk.create obstacles segment.name [] = (.error failure, after) := by
  cases created : disk.create obstacles segment.name [] with
  | mk answer later =>
      cases answer with
      | ok identity => simp [create, created, Except.map] at refused
      | error cause =>
          simp only [create, created, Except.map, Prod.mk.injEq, Except.error.injEq] at refused
          rw [refused.1, refused.2]

/-- The file of a segment is a new and empty one under a name that was free. -/
theorem create_ok (made : create obstacles disk segment syncs = (.ok writer, after)) :
    writer = { segment, identity := disk.nextIdentity, length := 0, syncs } ∧
      after.nextIdentity = disk.nextIdentity + 1 ∧ disk.find? segment.name = none ∧
        after.find? segment.name = some (.file disk.nextIdentity []) ∧
          ∀ other, other ≠ segment.name → after.find? other = disk.find? other := by
  obtain ⟨created, known⟩ := disk_create_ok made
  obtain ⟨identity, count, free, found, others⟩ := Disk.create_ok created
  rw [identity] at known found
  exact ⟨known, count, free, found, others⟩

theorem create_error (refused : create obstacles disk segment syncs = (.error failure, after)) :
    after.nextIdentity = disk.nextIdentity ∧ ∀ other, after.find? other = disk.find? other :=
  Disk.create_error (disk_create_error refused)

theorem names_create_ok (made : create obstacles disk segment syncs = (.ok writer, after)) :
    after.IsUsable ∧ after.names = disk.names ++ [segment.name] := by
  obtain ⟨nodes, before, later⟩ := Disk.folder?_create_ok (disk_create_ok made).1
  refine ⟨by rw [Disk.IsUsable, later, Option.isSome_some], ?_⟩
  rw [Disk.names, Disk.names, before, later]
  simp [Folder.names]

theorem folder?_create_error
    (refused : create obstacles disk segment syncs = (.error failure, after)) :
    after.folder? = disk.folder? :=
  Disk.folder?_create_error (disk_create_error refused)

/-!
### A batch is written
-/

/-- What stands under a name is not the writer's file, or the writer counts all of it. -/
def Counts (writer : SegmentWriter) (disk : Disk) (name : String) : Prop :=
  ∀ content, disk.find? name = some (.file writer.identity content) →
    content.length = writer.length

theorem Counts.find?_writePart (counts : writer.Counts disk name) (obstacles : Obstacles)
    (batch : Bytes) :
    (writer.writePart obstacles disk batch).find? name =
      (disk.find? name).map
        (Node.modified writer.identity (· ++ batch.take (writer.reach obstacles batch))) := by
  rw [writePart, Disk.find?_modify]
  refine Option.map_congr fun node found => ?_
  cases node with
  | directory => rfl
  | file owner content =>
      by_cases same : owner = writer.identity
      · subst same
        have written := Disk.overwritten_append content
          (batch.take (writer.reach obstacles batch)) []
        rw [List.append_nil, List.drop_nil, List.append_nil] at written
        simp only [Node.modified, ↓reduceIte, ← counts content found, written]
      · simp only [Node.modified, if_neg same]

/-- A batch that cannot be written to its end leaves no trace. -/
theorem Counts.find?_rollBack (counts : writer.Counts disk name) (obstacles : Obstacles)
    (batch : Bytes) :
    (writer.rollBack obstacles (writer.writePart obstacles disk batch)).find? name =
      disk.find? name := by
  rw [rollBack, Disk.find?_modify, counts.find?_writePart, Option.map_map]
  refine (Option.map_congr fun node found => ?_).trans (congrFun Option.map_id _)
  cases node with
  | directory => rfl
  | file owner content =>
      by_cases same : owner = writer.identity
      · subst same
        -- The file is cut back, never filled up, so the system has nothing to refuse.
        have longer : ¬(content ++ batch.take (writer.reach obstacles batch)).length <
            content.length := by
          rw [List.length_append]
          omega
        simp only [Function.comp_apply, Node.modified, ↓reduceIte, ← counts content found,
          Obstacles.refusesResize, decide_eq_false longer, Bool.false_and, Disk.resized_append,
          Bool.false_eq_true, id_eq]
      · simp only [Function.comp_apply, Node.modified, if_neg same, id_eq]

/-- A batch that is written stands behind what the file held. -/
theorem Counts.find?_whole (counts : writer.Counts disk name)
    (whole : writer.succeeds obstacles batch = true) :
    (writer.writePart obstacles disk batch).find? name =
      (disk.find? name).map (Node.modified writer.identity (· ++ batch)) := by
  have reach : writer.reach obstacles batch = batch.length := by
    simp only [succeeds, Bool.and_eq_true, beq_iff_eq] at whole
    exact whole.1
  rw [counts.find?_writePart, reach, List.take_length]

end QueryJournal.SegmentWriter
