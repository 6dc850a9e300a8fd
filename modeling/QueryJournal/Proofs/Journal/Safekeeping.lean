import QueryJournal.Proofs.Journal.Chronicle
import QueryJournal.Proofs.Journal.Legibility

namespace QueryJournal

open QueryJournal.Segment (Fits IsTidy found)
open QueryJournal.Storage

/-!
What becomes of records that a flush reports as written. They lie in a segment that is listed, and
while this segment is not given up whoever opens the directory lists it again. So a search finds
them, as far as their lines can be read.
-/

/-- Whether the active segment is closed and old ones may be given up. -/
def Operation.isRotation : Operation → Bool
  | .rotate | .rotateBehind => true
  | _ => false

namespace Archive

variable {directory : String} {start disk later : Disk} {occasion : Occasion}
  {archive before middle after : Archive} {journal : Journal} {policy : Policy}
  {obstacles : Obstacles} {deed : Deed} {segment : Segment} {batch written : List Entry}
  {gone : Segment → Prop}

/-!
### Writing
-/

theorem Attached.lines {writer : SegmentWriter} {active : ActiveSegment}
    (coherent : Coherent start archive)
    (attached : Attached start.nextIdentity archive.disk writer active) :
    ∃ earlier, archive.disk.find? active.segment.name =
      some (.file writer.identity (Entry.lines earlier)) := by
  obtain ⟨content, placed⟩ := attached.placed
  rw [attached.same] at placed
  cases (coherent.files _ _ _ placed).2 with
  | found old _ => exact absurd attached.own (Nat.not_le.mpr old)
  | made _ earlier lines => exact ⟨earlier, lines ▸ placed⟩

/-- A batch that is written lies at the end of the active file. -/
theorem lies_writeBatch {length : Nat} (coherent : Coherent start { journal, disk })
    (landed : (journal.writeBatch occasion disk (Entry.lines batch)).answer = .ok length) :
    ∃ segment,
      current (ofOutcome (journal.writeBatch occasion disk (Entry.lines batch))) = [segment] ∧
        Lies segment batch (journal.writeBatch occasion disk (Entry.lines batch)).disk := by
  have opening := (moves_activeWriter occasion journal disk).preserve Coherent.move coherent
  cases opened : journal.activeWriter occasion disk with
  | mk answer rest =>
      rw [opened] at opening
      cases answer with
      | error failure => simp [Journal.writeBatch, opened] at landed
      | ok writer =>
          obtain ⟨active, there, attached⟩ :=
            opening.active_of_writer (writer_activeWriter opened)
          obtain ⟨earlier, placed⟩ := attached.lines opening
          simp only [Journal.writeBatch, opened, SegmentWriter.append] at landed ⊢
          split at landed
          · rename_i whole
            rw [if_pos whole]
            refine ⟨active.segment, ?_, writer.identity, earlier, [], ?_⟩
            · exact congrArg (fun active => (active.map ActiveSegment.segment).toList) there
            · simp only [(attached.counts _).find?_whole whole, placed, Option.map_some, Node.modified,
                ↓reduceIte, List.append_nil, Entry.lines_append]
          · simp at landed

theorem buffer_writeBatch (occasion : Occasion) (journal : Journal) (disk : Disk)
    (batch : Utf8.Bytes) :
    (journal.writeBatch occasion disk batch).journal.buffer = journal.buffer := by
  have opened : (journal.activeWriter occasion disk).2.1.buffer = journal.buffer := by
    rw [Journal.activeWriter]
    split
    · rfl
    · dsimp only
      split <;> rfl
  rw [Journal.writeBatch]
  split
  · rename_i refused
    rw [refused] at opened
    exact opened
  · rename_i made
    rw [made] at opened
    exact opened

/-- What a flush reports lies in the active segment, and nothing waits in memory any more. -/
theorem lies_flushBuffer (coherent : Coherent start { journal, disk }) (force : Bool) :
    reported { journal, disk } (journal.flushBuffer occasion force disk).answer ≠ [] →
      (journal.flushBuffer occasion force disk).journal.buffer.entries = #[] ∧
      ∃ segment, current (ofOutcome (journal.flushBuffer occasion force disk)) = [segment] ∧
        Lies segment (reported { journal, disk } (journal.flushBuffer occasion force disk).answer)
          (journal.flushBuffer occasion force disk).disk := by
  have taken : Move occasion { journal, disk }
      { journal := { journal with buffer := journal.buffer.pending.2 }, disk } :=
    .remember rfl rfl rfl
  have buffer := buffer_writeBatch occasion { journal with buffer := journal.buffer.pending.2 } disk
    (Entry.lines journal.buffer.pending.1)
  rw [Journal.flushBuffer]
  split
  · exact fun some => absurd rfl some
  · dsimp only
    split
    · exact fun some => absurd rfl some
    · split
      · exact fun some => absurd rfl some
      · rename_i length landed
        intro _
        obtain ⟨segment, active, lies⟩ := lies_writeBatch (coherent.move taken) landed
        have whole : journal.buffer.entries.toList.take journal.buffer.pending.1.length =
            journal.buffer.pending.1 := List.take_length
        refine ⟨?_, segment, ?_, ?_⟩
        · rw [Entry.lines] at buffer
          simp only [buffer]
          simp [Buffer.commit, Buffer.pending]
        · rw [Entry.lines] at active
          simpa [current, ofOutcome, Catalog.commit, Option.map_map, Function.comp_def]
            using active
        · rw [reported, whole]
          exact lies

theorem lies_serveFlush (coherent : Coherent start { journal, disk }) {force : Bool}
    (some : reported { journal, disk } (journal.serveFlush occasion force disk).answer ≠ []) :
    journal.policy.fileEnabled = true ∧
      (journal.serveFlush occasion force disk).journal.buffer.entries = #[] ∧
      ∃ segment, current (ofOutcome (journal.serveFlush occasion force disk)) = [segment] ∧
        Lies segment (reported { journal, disk } (journal.serveFlush occasion force disk).answer)
          (journal.serveFlush occasion force disk).disk := by
  cases files : journal.policy.fileEnabled with
  | true =>
      rw [serveFlush_filed files] at some ⊢
      exact ⟨rfl, lies_flushBuffer coherent force some⟩
  | false =>
      rw [serveFlush_unfiled journal files] at some
      exact absurd rfl some

/-!
### What stays listed
-/

theorem Enlists.mem_held (enlists : Enlists occasion before after)
    (member : segment ∈ before.journal.held) : segment ∈ after.journal.held := by
  obtain ⟨closed, _, current⟩ := enlists
  rw [held_eq, List.mem_append] at member
  rw [held_eq, closed, List.mem_append]
  refine member.imp_right fun active => ?_
  rcases current with ⟨same, _⟩ | ⟨none, _⟩
  · exact same ▸ active
  · rw [none] at active
    contradiction

theorem Enlists.mem_current (enlists : Enlists occasion before after)
    (member : segment ∈ after.current) :
    segment ∈ before.current ∨ segment = before.upcoming occasion := by
  rcases enlists.current with ⟨same, _⟩ | ⟨_, new, _⟩
  · exact .inl (same ▸ member)
  · rw [new, List.mem_singleton] at member
    exact .inr member

/-- The active segment is closed, and the oldest ones are given up. -/
structure Retires (occasion : Occasion) (before after : Archive) : Prop where
  journal : after.journal =
    { before.journal with
      catalog := (before.journal.catalog.closeActive.2.prune before.journal.policy.keptSegments).2
      writer := none }
  disk : after.disk = (Journal.removeAll occasion.obstacles before.disk
    (before.journal.catalog.closeActive.2.prune before.journal.policy.keptSegments).1).2

/-- While its file is not removed a batch stays where it is. -/
theorem Lies.removeAll {segments : List Segment} (lies : Lies segment batch disk)
    (there : segment.name ∈ (Journal.removeAll obstacles disk segments).2.names) :
    Lies segment batch (Journal.removeAll obstacles disk segments).2 := by
  obtain ⟨identity, earlier, later, placed⟩ := lies
  exact ⟨identity, earlier, later, (Indexed.find?_removeAll_of_mem there).trans placed⟩

theorem serveRotation_cases (occasion : Occasion) (journal : Journal) (disk : Disk) :
    ofOutcome (journal.serveRotation occasion disk) =
        ofOutcome (journal.serveFlush occasion true disk) ∨
      (∃ count, (journal.serveFlush occasion true disk).answer = .ok count) ∧
        Retires occasion (ofOutcome (journal.serveFlush occasion true disk))
          (ofOutcome (journal.serveRotation occasion disk)) := by
  have policy := (sameSettings_serveFlush occasion true journal disk).1
  cases files : journal.policy.fileEnabled with
  | false =>
      rw [serveRotation_unfiled files, serveFlush_unfiled journal files]
      exact .inl rfl
  | true =>
      rw [serveFlush_filed files] at policy ⊢
      rw [Journal.serveRotation, if_pos files]
      dsimp only
      split
      · exact .inl rfl
      · rename_i count done
        split
        · exact .inl rfl
        · rw [← policy]
          exact .inr ⟨⟨count, done⟩, rfl, rfl⟩

namespace Retires

variable (retires : Retires occasion before after)
include retires

theorem held : before.journal.held =
    (before.journal.catalog.closeActive.2.prune before.journal.policy.keptSegments).1 ++
      after.journal.held := by
  rw [Journal.held, Journal.held, retires.journal, Catalog.takeAll_prune,
    Catalog.takeAll_closeActive]

theorem mem_held (stocked : Stocked before) (member : segment ∈ before.journal.held) :
    segment ∈ after.journal.held ∨ Outdated before.journal.policy after.journal segment := by
  rw [retires.held, List.mem_append] at member
  refine member.symm.imp_right fun given => ?_
  have apart : (Journal.held { before.journal with
      catalog := before.journal.catalog.closeActive.2 } |>.map Segment.name).Nodup := by
    rw [Journal.held, Catalog.takeAll_closeActive]
    exact stocked.apart
  have pruned := congrArg Journal.catalog retires.journal
  exact outdated_of_prune apart pruned rfl (List.mem_map_of_mem given)

theorem current_eq : after.current = [] := by
  rw [current, retires.journal, Catalog.active_prune, Catalog.active_closeActive]
  rfl

/-- The segment that was active is the last one to be given up. -/
theorem mem_held_of_current (active : before.current = [segment])
    (positive : before.journal.policy.keptSegments ≠ some 0) : segment ∈ after.journal.held := by
  have closed : before.journal.catalog.closeActive.2.closed =
      before.journal.catalog.closed ++ [segment] := by
    rw [← active, current, Catalog.closeActive]
    cases before.journal.catalog.active <;> simp
  refine List.mem_append_left _ ?_
  rw [retires.journal]
  cases kept : before.journal.policy.keptSegments with
  | none =>
      rw [Pipeline.prune_none, closed]
      exact List.mem_append_right _ (List.mem_singleton_self _)
  | some count =>
      have many : count ≠ 0 := fun none => positive (none ▸ kept)
      have bound : before.journal.catalog.closed.length + 1 - count ≤
          before.journal.catalog.closed.length := by omega
      simp only [Catalog.prune, closed, List.length_append, List.length_singleton]
      rw [List.drop_append_of_le_length bound]
      exact List.mem_append_right _ (List.mem_singleton_self _)

end Retires

theorem mem_held_serveRotation (occasion : Occasion) (coherent : Coherent start { journal, disk })
    (stocked : Stocked { journal, disk }) (member : segment ∈ journal.held) :
    segment ∈ (journal.serveRotation occasion disk).journal.held ∨
      Outdated journal.policy (journal.serveRotation occasion disk).journal segment := by
  have flushed := (moves_serveFlush occasion true journal disk).coherent_stocked coherent stocked
  have enlists := enlists_serveFlush coherent.inactive occasion true disk
  have listed : segment ∈ (journal.serveFlush occasion true disk).journal.held :=
    enlists.mem_held member
  rcases serveRotation_cases occasion journal disk with same | ⟨_, retires⟩
  · exact .inl (congrArg (·.journal.held) same ▸ listed)
  · rw [← (sameSettings_serveFlush occasion true journal disk).1]
    exact retires.mem_held flushed.2 listed

/-- What a deed does to the index: nothing, what a flush or a rotation does, or it empties it. -/
theorem perform_effects (archive : Archive) (still : ∀ policy, deed.operation ≠ .reopen policy) :
    (archive.perform deed).journal.catalog = archive.journal.catalog ∨
      (∃ force, archive.perform deed =
        ofOutcome (archive.journal.serveFlush deed.occasion force archive.disk)) ∨
        deed.operation.isRotation = true ∧ archive.perform deed =
          ofOutcome (archive.journal.serveRotation deed.occasion archive.disk) ∨
            deed.operation = .clear ∧
              (archive.perform deed).journal.catalog = archive.journal.catalog.takeAll.2 := by
  obtain ⟨journal, disk⟩ := archive
  obtain ⟨occasion, operation⟩ := deed
  cases operation with
  | add exchange =>
      refine .inl ?_
      simp only [perform, Journal.add]
      split
      · rfl
      · split <;> rfl
  | flush force =>
      simp only [perform, Journal.flush, Journal.whileOpen]
      split
      · exact .inl rfl
      · exact .inr (.inl ⟨force, rfl⟩)
  | rotate =>
      simp only [perform, Journal.rotate, Journal.whileOpen]
      split
      · exact .inl rfl
      · exact .inr (.inr (.inl ⟨rfl, rfl⟩))
  | clear =>
      simp only [perform, Journal.clear, Journal.whileOpen]
      split
      · exact .inl rfl
      · exact .inr (.inr (.inr ⟨trivial, rfl⟩))
  | flushBehind => exact .inr (.inl ⟨false, rfl⟩)
  | rotateBehind => exact .inr (.inr (.inl ⟨rfl, rfl⟩))
  | reopen policy => exact absurd rfl (still policy)

theorem gone_of_isRotation (rotation : deed.operation.isRotation = true) :
    archive.Gone deed segment ↔
      Outdated archive.journal.policy (archive.perform deed).journal segment := by
  obtain ⟨occasion, operation⟩ := deed
  cases operation with
  | rotate | rotateBehind => exact Iff.rfl
  | add | flush | clear | flushBehind | reopen => cases rotation

/-- A deed takes a segment from the list only if it may remove its file. -/
theorem mem_held_perform (orderly : Orderly start archive)
    (still : ∀ policy, deed.operation ≠ .reopen policy) (member : segment ∈ archive.journal.held)
    (spared : ¬ archive.Gone deed segment) : segment ∈ (archive.perform deed).journal.held := by
  obtain ⟨coherent, stocked, _⟩ := orderly
  rcases archive.perform_effects still with
    same | ⟨force, flushed⟩ | ⟨rotation, rotated⟩ | ⟨clear, _⟩
  · rw [Journal.held, same]
    exact member
  · rw [flushed]
    exact (enlists_serveFlush coherent.inactive deed.occasion force archive.disk).mem_held member
  · rw [gone_of_isRotation rotation, rotated] at spared
    rw [rotated]
    exact (mem_held_serveRotation deed.occasion coherent stocked member).resolve_right spared
  · rw [Gone, clear] at spared
    exact absurd trivial spared

theorem mem_held_close (coherent : Coherent start archive)
    (member : segment ∈ archive.journal.held) (occasion : Occasion) :
    segment ∈ (archive.journal.close occasion archive.disk).journal.held := by
  rw [Journal.close]
  split
  · exact member
  · have inactive : Journal.writer { archive.journal with closed := true } = none → _ :=
      coherent.inactive
    have listed := (enlists_serveFlush inactive occasion true archive.disk).mem_held member
    rw [Journal.held, Catalog.takeAll_closeActive]
    exact listed

/-- In a file that is appended to a batch stays where it is. -/
theorem AppendOnly.lies (appendOnly : AppendOnly occasion before after written gone)
    (listed : segment ∈ before.journal.held) (there : segment.name ∈ after.disk.names)
    (lies : Lies segment batch before.disk) : Lies segment batch after.disk := by
  obtain ⟨identity, earlier, later, placed⟩ := lies
  have present : after.disk.find? segment.name ≠ none := by
    obtain ⟨node, known⟩ := Disk.mem_names_iff.mp there
    simp [known]
  rcases List.mem_append.mp listed with closed | current
  · have same := (appendOnly.closed segment closed).resolve_right fun removed =>
      present removed.1
    exact ⟨identity, earlier, later, same.trans placed⟩
  · rw [Option.mem_toList, Option.map_eq_some_iff] at current
    obtain ⟨active, known, rfl⟩ := current
    obtain ⟨owner, content, old, _, grown⟩ := appendOnly.active active known
    have grown := grown.resolve_right fun removed => present removed.1
    rw [placed, Option.some.injEq, Node.file.injEq] at old
    obtain ⟨rfl, rfl⟩ := old
    refine ⟨identity, earlier, later ++ written, ?_⟩
    rw [grown, ← Entry.lines_append, ← List.append_assoc]

end Archive

end QueryJournal
