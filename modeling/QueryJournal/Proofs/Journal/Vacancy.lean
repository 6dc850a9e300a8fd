import QueryJournal.Proofs.Journal.Closing
import QueryJournal.Proofs.Journal.Frugality

namespace QueryJournal

open QueryJournal.Segment (IsTidy)
open QueryJournal.Storage

/-!
Which files of a log are empty. A segment is made before its first batch is written, so it is empty
while that fails. The batch then waits in memory, and a rotation closes no segment before it is
written. But a log that is closed, or opened again without being closed, does not wait for that.
-/

namespace Archive

variable {start disk remaining : Disk} {archive before after : Archive} {occasion : Occasion}
  {journal : Journal} {policy : Policy} {obstacles : Obstacles} {deed : Deed} {segment : Segment}
  {left : List String} {name : String} {written : List Entry}

/-- The active segment, if nothing counts in it. -/
def vacant (archive : Archive) : List Segment :=
  (archive.journal.catalog.active.filter (·.committed == 0)).toList.map ActiveSegment.segment

/-- The file of a segment holds records, and nothing else. -/
def HoldsRecords (segment : Segment) (disk : Disk) : Prop :=
  ∃ identity entries, entries ≠ [] ∧
    disk.find? segment.name = some (.file identity (Entry.lines entries))

theorem mem_vacant_iff : segment ∈ archive.vacant ↔
    ∃ active ∈ archive.journal.catalog.active, active.committed = 0 ∧ active.segment = segment := by
  simp only [vacant, List.mem_map, Option.mem_toList, Option.filter_eq_some_iff, beq_iff_eq,
    Option.mem_def, and_assoc]

theorem mem_current_iff : segment ∈ archive.current ↔
    ∃ active ∈ archive.journal.catalog.active, active.segment = segment := by
  simp only [current, Option.mem_toList, Option.map_eq_some_iff, Option.mem_def]

/-- The active segment is vacant if its file is empty. -/
theorem Coherent.mem_vacant_iff (coherent : Coherent start archive) :
    segment ∈ archive.vacant ↔
      segment ∈ archive.current ∧
        ∃ identity, archive.disk.find? segment.name = some (.file identity []) := by
  rw [Archive.mem_vacant_iff, mem_current_iff]
  constructor
  · rintro ⟨active, present, none, rfl⟩
    obtain ⟨writer, attached⟩ := coherent.writer_of_active present
    obtain ⟨content, placed⟩ := attached.placed
    have length := attached.length _ content placed
    rw [← attached.committed, none, List.length_eq_zero_iff] at length
    rw [attached.same, length] at placed
    exact ⟨⟨active, present, rfl⟩, writer.identity, placed⟩
  · rintro ⟨⟨active, present, rfl⟩, identity, empty⟩
    obtain ⟨writer, attached⟩ := coherent.writer_of_active present
    obtain ⟨content, placed⟩ := attached.placed
    have same := placed
    rw [attached.same, empty, Option.some.injEq, Node.file.injEq] at same
    have length := attached.length _ content placed
    rw [← same.2, List.length_nil] at length
    exact ⟨active, present, attached.committed.trans length.symm, rfl⟩

/-- Every empty file was left, or it is that of the active segment, whose first batch still waits in
memory. Everything in the directory is a file. -/
structure Sparing (left : List String) (archive : Archive) : Prop where
  empties : ∀ name identity, archive.disk.find? name = some (.file identity []) →
    name ∈ left ∨ name ∈ archive.current.map Segment.name
  waiting : archive.vacant ≠ [] → archive.journal.buffer.entries ≠ #[]
  plain : ∀ name, archive.disk.find? name ≠ some .directory

/-- A flush writes something, or leaves everything in memory. Unless there is something in memory it
does not change the index. -/
theorem serveFlush_effects (occasion : Occasion) (force : Bool) (journal : Journal) (disk : Disk) :
    reported { journal, disk } (journal.serveFlush occasion force disk).answer ≠ [] ∨
      (journal.serveFlush occasion force disk).journal.buffer.entries = journal.buffer.entries ∧
        ((journal.serveFlush occasion force disk).journal.catalog = journal.catalog ∨
          journal.buffer.entries ≠ #[]) := by
  have buffer := buffer_writeBatch occasion { journal with buffer := journal.buffer.pending.2 } disk
    (journal.buffer.pending.1.flatMap Entry.line)
  rw [Journal.serveFlush]
  split
  · rw [Journal.flushBuffer]
    split
    · exact .inr ⟨rfl, .inl rfl⟩
    · dsimp only
      split
      · exact .inr ⟨rfl, .inl rfl⟩
      · rename_i some
        have some : journal.buffer.entries.toList ≠ [] := by simpa [Buffer.pending] using some
        split
        · simp only [buffer]
          exact .inr ⟨rfl, .inr (by simpa using some)⟩
        · refine .inl ?_
          have whole : journal.buffer.entries.toList.take journal.buffer.pending.1.length =
              journal.buffer.pending.1 := List.take_length
          rw [reported, whole]
          exact some
  · exact .inr ⟨rfl, .inl rfl⟩

theorem Coherent.serveFlush (coherent : Coherent start { journal, disk })
    (stocked : Stocked { journal, disk }) (occasion : Occasion) (force : Bool) :
    Coherent start (ofOutcome (journal.serveFlush occasion force disk)) :=
  ((moves_serveFlush occasion force journal disk).coherent_stocked coherent stocked).1

/-- What a flush writes comes to the active file, which is then not empty. -/
theorem vacant_serveFlush (coherent : Coherent start { journal, disk })
    (stocked : Stocked { journal, disk }) {force : Bool}
    (some : reported { journal, disk } (journal.serveFlush occasion force disk).answer ≠ []) :
    vacant (ofOutcome (journal.serveFlush occasion force disk)) = [] := by
  have after := coherent.serveFlush stocked occasion force
  obtain ⟨segment, active, identity, content, _, placed⟩ := gains_serveFlush coherent stocked some
  refine List.eq_nil_iff_forall_not_mem.mpr fun other member => ?_
  obtain ⟨listed, owner, empty⟩ := after.mem_vacant_iff.mp member
  rw [active, List.mem_singleton] at listed
  have none := placed.symm.trans (listed ▸ empty)
  rw [Option.some.injEq, Node.file.injEq, List.append_eq_nil_iff] at none
  exact Entry.lines_ne_nil some none.2.2

theorem Enlists.mem_current_after (enlists : Enlists occasion before after)
    (member : segment ∈ before.current) : segment ∈ after.current := by
  rcases enlists.current with ⟨same, _⟩ | ⟨none, _⟩
  · exact same ▸ member
  · rw [none] at member
    contradiction

/-- After a flush what stands under a name is the active file, or what stood there before. -/
theorem Grows.origin {node : Node} (grows : Grows occasion before after written)
    (enlists : Enlists occasion before after) (placed : after.disk.find? name = some node) :
    (name ∈ after.current.map Segment.name ∧ node ≠ .directory) ∨
      before.disk.find? name = some node := by
  by_cases free : before.disk.find? name = none
  · rcases grows.fresh name free with none | ⟨_, mine, made⟩
    · cases none.symm.trans placed
    · rw [made, Option.some.injEq] at placed
      refine .inl ⟨?_, by simp [← placed]⟩
      rcases enlists.current with ⟨_, names⟩ | ⟨_, new, _⟩
      · have listed := Disk.mem_names_iff.mpr ⟨_, made⟩
        rw [names, Disk.mem_names_iff, free] at listed
        obtain ⟨_, there⟩ := listed
        cases there
      · rw [new, mine]
        exact List.mem_singleton_self _
  · by_cases mine : ∃ active ∈ before.journal.catalog.active, name = active.segment.name
    · obtain ⟨active, present, rfl⟩ := mine
      obtain ⟨_, _, _, _, grown⟩ := grows.active active present
      rw [grown, Option.some.injEq] at placed
      have listed : active.segment ∈ before.current := mem_current_iff.mpr ⟨active, present, rfl⟩
      exact .inl ⟨List.mem_map_of_mem (enlists.mem_current_after listed), by simp [← placed]⟩
    · refine .inr (placed ▸ (grows.others name free fun active present same => ?_).symm)
      exact mine ⟨active, present, same⟩

theorem Sparing.serveFlush (sparing : Sparing left { journal, disk })
    (coherent : Coherent start { journal, disk }) (stocked : Stocked { journal, disk })
    (occasion : Occasion) (force : Bool) :
    Sparing left (ofOutcome (journal.serveFlush occasion force disk)) := by
  have grows := grows_serveFlush coherent stocked occasion force
  have enlists := enlists_serveFlush coherent.inactive occasion force disk
  refine
    { empties := fun name identity empty => ?_
      waiting := fun vacant => ?_
      plain := fun name directory => ?_ }
  · rcases grows.origin enlists empty with ⟨active, _⟩ | before
    · exact .inr active
    · refine (sparing.empties name identity before).imp_right fun active => ?_
      obtain ⟨segment, listed, rfl⟩ := List.mem_map.mp active
      exact List.mem_map_of_mem (enlists.mem_current_after listed)
  · rcases serveFlush_effects occasion force journal disk with some | ⟨entries, same | waits⟩
    · exact absurd (vacant_serveFlush coherent stocked some) vacant
    · have vacant : Archive.vacant { journal, disk } ≠ [] := by
        rwa [Archive.vacant, ofOutcome, same] at vacant
      exact entries ▸ sparing.waiting vacant
    · exact entries ▸ waits
  · rcases grows.origin enlists directory with ⟨_, file⟩ | before
    · exact file rfl
    · exact sparing.plain name before

theorem Sparing.mono {later : List String} (sparing : Sparing left archive)
    (more : ∀ name ∈ left, name ∈ later) : Sparing later archive :=
  { empties := fun name identity empty =>
      (sparing.empties name identity empty).imp_left (more name)
    waiting := sparing.waiting
    plain := sparing.plain }

theorem vacant_of_idle (idle : archive.current = []) : archive.vacant = [] := by
  refine List.eq_nil_iff_forall_not_mem.mpr fun segment member => ?_
  obtain ⟨active, present, _, same⟩ := mem_vacant_iff.mp member
  have listed := mem_current_iff.mpr ⟨active, present, same⟩
  rw [idle] at listed
  contradiction

/-- Where no segment is active any more, and files may have gone, the empty files are those that were
left and the one that was active. -/
theorem Sparing.release {later : List String} (sparing : Sparing left before)
    (coherent : Coherent start before) (idle : after.current = [])
    (fewer : ∀ name node, after.disk.find? name = some node →
      before.disk.find? name = some node)
    (more : ∀ name ∈ left, name ∈ later)
    (last : ∀ segment ∈ before.vacant, segment.name ∈ after.disk.names →
      segment.name ∈ later) : Sparing later after := by
  refine
    { empties := fun name identity empty => .inl ?_
      waiting := fun some => absurd (vacant_of_idle idle) some
      plain := fun name directory => sparing.plain name (fewer name _ directory) }
  have before := fewer name _ empty
  rcases sparing.empties name identity before with left | active
  · exact more name left
  · obtain ⟨segment, listed, rfl⟩ := List.mem_map.mp active
    exact last segment (coherent.mem_vacant_iff.mpr ⟨listed, identity, before⟩)
      (Disk.mem_names_iff.mpr ⟨_, empty⟩)

/-- A forced flush that succeeds leaves no segment vacant. -/
theorem Sparing.vacant_flushed {count : Nat} (sparing : Sparing left { journal, disk })
    (coherent : Coherent start { journal, disk }) (stocked : Stocked { journal, disk })
    (files : journal.policy.fileEnabled = true)
    (done : (journal.serveFlush occasion true disk).answer = .ok count) :
    vacant (ofOutcome (journal.serveFlush occasion true disk)) = [] := by
  have flushed := sparing.serveFlush coherent stocked occasion true
  by_contra some
  rw [serveFlush_filed files] at done
  have empty := ((Journal.entries_flushBuffer occasion journal disk).2 count done).1
  rw [← serveFlush_filed files] at empty
  exact flushed.waiting some empty

theorem Sparing.serveRotation (sparing : Sparing left { journal, disk })
    (coherent : Coherent start { journal, disk }) (stocked : Stocked { journal, disk })
    (occasion : Occasion) : Sparing left (ofOutcome (journal.serveRotation occasion disk)) := by
  cases files : journal.policy.fileEnabled with
  | false =>
      rw [serveRotation_unfiled files]
      exact sparing
  | true =>
      have flushed := sparing.serveFlush coherent stocked occasion true
      have after := coherent.serveFlush stocked occasion true
      rcases serveRotation_cases occasion journal disk with same | ⟨⟨count, done⟩, retires⟩
      · exact same ▸ flushed
      · refine flushed.release after retires.current_eq ?_ (fun _ => id) ?_
        · intro name node placed
          rw [retires.disk] at placed
          exact Indexed.find?_of_find?_removeAll placed
        · simp [sparing.vacant_flushed coherent stocked files done]

/-- The names of files that a deed leaves empty. In a clear this is the one of a vacant segment, if
it cannot be removed. -/
def leaves (archive : Archive) (deed : Deed) : List String :=
  match deed.operation with
  | .clear =>
    (archive.vacant.map Segment.name).filter (· ∈ (archive.perform deed).disk.names)
  | _ => []

theorem Sparing.add (sparing : Sparing left { journal, disk }) (exchange : Exchange) :
    Sparing left { journal := (journal.add occasion.now exchange).2, disk } := by
  rw [Journal.add]
  split
  · exact sparing
  · split
    · exact ⟨sparing.empties, sparing.waiting, sparing.plain⟩
    · refine ⟨sparing.empties, fun _ => ?_, sparing.plain⟩
      simp [Buffer.append]

theorem Sparing.clear (sparing : Sparing left archive) (coherent : Coherent start archive)
    (clear : deed.operation = .clear) :
    Sparing (left ++ archive.leaves deed) (archive.perform deed) := by
  obtain ⟨journal, disk⟩ := archive
  obtain ⟨occasion, operation⟩ := deed
  cases clear
  cases shut : journal.closed with
  | true =>
      have same : perform { journal, disk } ⟨occasion, .clear⟩ = { journal, disk } :=
        congrArg ofOutcome (if_pos shut)
      rw [same]
      exact sparing.mono fun _ => List.mem_append_left _
  | false =>
      have cleared : perform { journal, disk } ⟨occasion, .clear⟩ = _ :=
        congrArg ofOutcome (whileOpen_going shut disk _)
      refine sparing.release coherent ?_ ?_ (fun _ => List.mem_append_left _) ?_
      · rw [cleared]
        rfl
      · intro name node placed
        rw [cleared] at placed
        exact Indexed.find?_of_find?_removeAll placed
      · intro segment vacant stays
        refine List.mem_append_right _ (List.mem_filter.mpr ⟨List.mem_map_of_mem vacant, ?_⟩)
        exact decide_eq_true stays

theorem Sparing.perform (sparing : Sparing left archive) (orderly : Orderly start archive)
    (still : ∀ policy, deed.operation ≠ .reopen policy) :
    Sparing (left ++ archive.leaves deed) (archive.perform deed) := by
  obtain ⟨coherent, stocked, _⟩ := orderly
  by_cases clear : deed.operation = .clear
  · exact sparing.clear coherent clear
  obtain ⟨journal, disk⟩ := archive
  obtain ⟨occasion, operation⟩ := deed
  have none : leaves { journal, disk } ⟨occasion, operation⟩ = [] := by
    cases operation <;> first | rfl | exact absurd rfl clear
  rw [none, List.append_nil]
  cases operation with
  | add exchange => exact sparing.add exchange
  | flush force =>
      rw [Archive.perform, Journal.flush, Journal.whileOpen]
      split
      · exact sparing
      · exact sparing.serveFlush coherent stocked occasion force
  | rotate =>
      rw [Archive.perform, Journal.rotate, Journal.whileOpen]
      split
      · exact sparing
      · exact sparing.serveRotation coherent stocked occasion
  | clear => exact absurd rfl clear
  | flushBehind => exact sparing.serveFlush coherent stocked occasion false
  | rotateBehind => exact sparing.serveRotation coherent stocked occasion
  | reopen policy => exact absurd rfl (still policy)

/-- What is flushed by force when a log is closed. -/
def lastFlush (archive : Archive) (occasion : Occasion) : Outcome Nat :=
  archive.journal.flush occasion true archive.disk

theorem Sparing.close (sparing : Sparing left archive) (orderly : Orderly start archive)
    (occasion : Occasion) :
    Sparing (left ++ (ofOutcome (archive.lastFlush occasion)).vacant.map Segment.name)
      (ofOutcome (archive.journal.close occasion archive.disk)) := by
  obtain ⟨coherent, stocked, _⟩ := orderly
  cases shut : archive.journal.closed with
  | true =>
      rw [close_of_closed shut occasion]
      exact sparing.mono fun _ => List.mem_append_left _
  | false =>
      obtain ⟨journal, disk⟩ := archive
      have flush : lastFlush { journal, disk } occasion =
          journal.serveFlush occasion true disk := whileOpen_going shut disk _
      have flushed := sparing.serveFlush coherent stocked occasion true
      have after := coherent.serveFlush stocked occasion true
      rw [flush]
      refine flushed.release after ?_ ?_ (fun _ => List.mem_append_left _) ?_
      · rw [Journal.close_eq shut]
        exact current_release _ _
      · intro name node placed
        rw [Journal.close_eq shut] at placed
        rw [← flush]
        exact placed
      · intro segment vacant _
        exact List.mem_append_right _ (List.mem_map_of_mem vacant)

theorem Sparing.openOn (sparing : Sparing left archive) (coherent : Coherent start archive)
    (opened : Journal.openOn policy obstacles archive.disk = (.ok journal, remaining)) :
    Sparing (left ++ archive.vacant.map Segment.name) { journal, disk := remaining } := by
  suffices idle : current { journal, disk := remaining } = [] ∧ ∀ name node,
      remaining.find? name = some node → archive.disk.find? name = some node from
    sparing.release coherent idle.1 idle.2 (fun _ => List.mem_append_left _)
      fun segment vacant _ => List.mem_append_right _ (List.mem_map_of_mem vacant)
  cases files : policy.fileEnabled with
  | false =>
      obtain ⟨rfl, _, held, _⟩ := openOn_unfiled files opened
      exact ⟨(List.append_eq_nil_iff.mp held).2, fun _ _ => id⟩
  | true =>
      obtain ⟨_, rfl, rfl⟩ := openOn_ok files opened
      refine ⟨?_, fun name node => Indexed.find?_of_find?_removeAll⟩
      rw [current, Catalog.active_prune]
      rfl

/-- A log as it can be found between operations, in any session on a directory in which there was
nothing at first, and the names under which files were left empty: by a log whose active segment was
vacant when it was closed or another one took its place, or when it was cleared and the file stayed. -/
inductive Leftover (start : Disk) : List String → Archive → Prop where
  | opened {policy : Policy} {obstacles : Obstacles} {journal : Journal} {disk : Disk}
      (opened : Journal.openOn policy obstacles start = (.ok journal, disk)) :
      Leftover start [] { journal, disk }
  | performed {left : List String} {archive : Archive} {deed : Deed}
      (earlier : Leftover start left archive)
      (still : ∀ policy, deed.operation ≠ .reopen policy)
      (awake : archive.journal.closed = true → deed.operation.isUpkeep = false) :
      Leftover start (left ++ archive.leaves deed) (archive.perform deed)
  | closed {left : List String} {archive : Archive} (earlier : Leftover start left archive)
      (occasion : Occasion) :
      Leftover start (left ++ (ofOutcome (archive.lastFlush occasion)).vacant.map Segment.name)
        (ofOutcome (archive.journal.close occasion archive.disk))
  | reopened {left : List String} {archive : Archive} {policy : Policy} {obstacles : Obstacles}
      {journal : Journal} {disk : Disk} (earlier : Leftover start left archive)
      (opened : Journal.openOn policy obstacles archive.disk = (.ok journal, disk)) :
      Leftover start (left ++ archive.vacant.map Segment.name) { journal, disk }

theorem Leftover.visited (leftover : Leftover start left archive) : Visited start archive := by
  have tail : ∀ {former next : Archive}, Visited start former → Next former next →
      Visited start next := by
    rintro former next ⟨policy, obstacles, journal, disk, opened, later⟩ step
    exact ⟨policy, obstacles, journal, disk, opened, later.tail step⟩
  induction leftover with
  | opened opened => exact ⟨_, _, _, _, opened, .refl⟩
  | performed _ still awake ih => exact tail ih (.performed _ still awake)
  | closed _ occasion ih => exact tail ih (.closed _ occasion)
  | reopened _ opened ih => exact tail ih (.opened opened)

theorem find?_of_list_nil (nothing : start.list = .ok []) (name : String) :
    start.find? name = none := by
  have names := Disk.list_of_isUsable (Disk.isUsable_of_list nothing)
  rw [nothing, Except.ok.injEq] at names
  refine Option.eq_none_iff_forall_ne_some.mpr fun node there => ?_
  have listed := Disk.mem_names_iff.mpr ⟨node, there⟩
  rw [← names] at listed
  contradiction

theorem Leftover.orderly (nothing : start.list = .ok [])
    (leftover : Leftover start left archive) : Orderly start archive := by
  have names := Disk.list_of_isUsable (Disk.isUsable_of_list nothing)
  rw [nothing, Except.ok.injEq] at names
  have free := find?_of_list_nil nothing
  exact leftover.visited.orderly (by simp [IsTidy, ← names]) (by simp [← names])
    (by simp [Disk.Numbered, free])

theorem Leftover.sparing (nothing : start.list = .ok [])
    (leftover : Leftover start left archive) : Sparing left archive := by
  induction leftover with
  | @opened policy _ _ _ opened =>
      have free := find?_of_list_nil nothing
      let first : Archive := { journal := Journal.openedOn policy start, disk := start }
      have empty : Sparing [] first :=
        { empties := by simp [first, free]
          waiting := fun some => absurd (vacant_of_idle rfl) some
          plain := by simp [first, free] }
      have coherent : Coherent start first := .openedOn (Nat.le_refl _) (by simp [free])
      exact empty.openOn coherent opened
  | performed earlier still _ ih => exact ih.perform (earlier.orderly nothing) still
  | closed earlier occasion ih => exact ih.close (earlier.orderly nothing) occasion
  | reopened earlier opened ih => exact ih.openOn (earlier.orderly nothing).coherent opened

/-!
### Which segments hold records
-/

theorem Coherent.holdsRecords (coherent : Coherent start archive)
    (listed : segment ∈ archive.current) (some : segment ∉ archive.vacant) :
    HoldsRecords segment archive.disk := by
  obtain ⟨active, present, rfl⟩ := mem_current_iff.mp listed
  obtain ⟨writer, attached⟩ := coherent.writer_of_active present
  obtain ⟨entries, placed⟩ := attached.lines coherent
  refine ⟨writer.identity, entries, ?_, placed⟩
  rintro rfl
  exact some (coherent.mem_vacant_iff.mpr ⟨listed, writer.identity, placed⟩)

theorem HoldsRecords.removeAll {segments : List Segment} (holds : HoldsRecords segment disk)
    (there : segment.name ∈ (Journal.removeAll obstacles disk segments).2.names) :
    HoldsRecords segment (Journal.removeAll obstacles disk segments).2 := by
  obtain ⟨identity, entries, some, placed⟩ := holds
  exact ⟨identity, entries, some, (Indexed.find?_removeAll_of_mem there).trans placed⟩

theorem Sparing.holdsRecords (sparing : Sparing left archive) (orderly : Orderly start archive)
    (nothing : start.list = .ok []) (listed : segment ∈ archive.journal.catalog.closed)
    (kept : segment.name ∉ left) : HoldsRecords segment archive.disk := by
  obtain ⟨coherent, stocked, _⟩ := orderly
  have there := stocked.listed segment (List.mem_append_left _ listed)
  obtain ⟨node, placed⟩ := Disk.mem_names_iff.mp there
  cases node with
  | directory => exact absurd placed (sparing.plain _)
  | file identity content =>
      cases (coherent.files _ _ _ placed).2 with
      | found _ same =>
          rw [find?_of_list_nil nothing] at same
          cases same
      | made _ entries lines =>
          refine ⟨identity, entries, ?_, lines ▸ placed⟩
          rintro rfl
          rcases sparing.empties _ identity (lines ▸ placed) with gone | active
          · exact kept gone
          · have apart := stocked.apart
            rw [held_eq, List.map_append, List.nodup_append] at apart
            exact apart.2.2 _ (List.mem_map_of_mem listed) _ active rfl

/-- What a rotation closes holds records. -/
theorem Sparing.holdsRecords_serveRotation (sparing : Sparing left { journal, disk })
    (coherent : Coherent start { journal, disk }) (stocked : Stocked { journal, disk })
    (occasion : Occasion)
    (listed : segment ∈ (journal.serveRotation occasion disk).journal.catalog.closed) :
    segment ∈ journal.catalog.closed ∨
      HoldsRecords segment (journal.serveRotation occasion disk).disk := by
  have enlists := enlists_serveFlush coherent.inactive occasion true disk
  cases files : journal.policy.fileEnabled with
  | false =>
      rw [serveRotation_unfiled files] at listed
      exact .inl listed
  | true =>
      rcases serveRotation_cases occasion journal disk with same | ⟨⟨count, done⟩, retires⟩
      · have closed : (journal.serveRotation occasion disk).journal.catalog.closed = _ :=
          congrArg (·.journal.catalog.closed) same
        rw [closed] at listed
        exact .inl (enlists.closed ▸ listed)
      · have flushed := coherent.serveFlush stocked occasion true
        have after :=
          ((moves_serveRotation occasion journal disk).coherent_stocked coherent stocked).2
        have kept : segment ∈ (journal.serveRotation occasion disk).journal.held :=
          List.mem_append_left _ listed
        have before : segment ∈ (journal.serveFlush occasion true disk).journal.held :=
          retires.held ▸ List.mem_append_right _ kept
        rcases List.mem_append.mp before with earlier | active
        · exact .inl (enlists.closed ▸ earlier)
        · have holds := flushed.holdsRecords active
            (by simp [sparing.vacant_flushed coherent stocked files done])
          have there := after.listed segment kept
          rw [retires.disk] at there
          exact .inr (congrArg (HoldsRecords segment) retires.disk ▸ holds.removeAll there)

/-- Which files of a log are empty, where `left` are the names under which some were left. -/
structure Filled (left : List String) (archive : Archive) : Prop where
  /-- An empty file was left, or the first batch of the active segment still waits to be written. -/
  empties : ∀ name identity, archive.disk.find? name = some (.file identity []) →
    name ∈ left ∨
      name ∈ archive.vacant.map Segment.name ∧ archive.journal.buffer.entries ≠ #[] ∧
        archive.journal.closed = false
  /-- So what retention counts holds records, unless it was left empty. -/
  closed : ∀ segment ∈ archive.journal.catalog.closed,
    segment.name ∈ left ∨ HoldsRecords segment archive.disk
  /-- A rotation closes no empty segment. -/
  rotation : ∀ deed, deed.operation.isRotation = true →
    ∀ segment ∈ (archive.perform deed).journal.catalog.closed,
      segment ∈ archive.journal.catalog.closed ∨
        HoldsRecords segment (archive.perform deed).disk
  /-- A close closes none either, but for a vacant one. -/
  closing : ∀ occasion,
    ∀ segment ∈ (archive.journal.close occasion archive.disk).journal.catalog.closed,
      segment ∈ archive.journal.catalog.closed ∨
        HoldsRecords segment (archive.journal.close occasion archive.disk).disk ∨
          segment ∈ (ofOutcome (archive.lastFlush occasion)).vacant
  /-- A segment is only vacant then if the last flush failed, and its file stays empty. -/
  forsaken : archive.journal.policy.fileEnabled = true → ∀ occasion,
    ∀ segment ∈ (ofOutcome (archive.lastFlush occasion)).vacant,
      (∃ failure, (archive.lastFlush occasion).answer = .error failure) ∧
        segment ∈ (archive.journal.close occasion archive.disk).journal.catalog.closed ∧
          ∃ identity, (archive.journal.close occasion archive.disk).disk.find? segment.name =
            some (.file identity [])

theorem Orderly.idle (orderly : Orderly start archive) (shut : archive.journal.closed = true) :
    archive.current = [] := by
  rw [current, orderly.coherent.inactive (orderly.shut shut)]
  rfl

theorem closed_close (going : archive.journal.closed = false) (occasion : Occasion) :
    (archive.journal.close occasion archive.disk).journal.catalog.closed =
      (archive.lastFlush occasion).journal.catalog.closed ++
        (ofOutcome (archive.lastFlush occasion)).current := by
  rw [Journal.close_eq going]
  exact Catalog.closed_closeActive _

theorem lastFlush_going (coherent : Coherent start archive) (stocked : Stocked archive)
    (going : archive.journal.closed = false) (occasion : Occasion) :
    Coherent start (ofOutcome (archive.lastFlush occasion)) ∧
      Enlists occasion archive (ofOutcome (archive.lastFlush occasion)) := by
  rw [lastFlush, Journal.flush, whileOpen_going going]
  exact ⟨coherent.serveFlush stocked occasion true,
    enlists_serveFlush coherent.inactive occasion true archive.disk⟩

theorem Sparing.filled (sparing : Sparing left archive) (orderly : Orderly start archive)
    (nothing : start.list = .ok []) : Filled left archive := by
  have idle := orderly.idle
  obtain ⟨coherent, stocked, _⟩ := id orderly
  refine
    { empties := fun name identity empty => ?_
      closed := fun segment listed => ?_
      rotation := fun deed rotation segment listed => ?_
      closing := fun occasion segment listed => ?_
      forsaken := fun files occasion segment vacant => ?_ }
  · refine (sparing.empties name identity empty).imp_right fun active => ?_
    obtain ⟨segment, current, rfl⟩ := List.mem_map.mp active
    have vacant := coherent.mem_vacant_iff.mpr ⟨current, identity, empty⟩
    refine ⟨List.mem_map_of_mem vacant, sparing.waiting (List.ne_nil_of_mem vacant), ?_⟩
    refine Bool.eq_false_iff.mpr fun shut => ?_
    rw [idle shut] at current
    contradiction
  · by_cases gone : segment.name ∈ left
    · exact .inl gone
    · exact .inr (sparing.holdsRecords orderly nothing listed gone)
  · obtain ⟨journal, disk⟩ := archive
    obtain ⟨occasion, operation⟩ := deed
    cases operation with
    | rotate =>
        simp only [Archive.perform, Journal.rotate, Journal.whileOpen] at listed ⊢
        split at listed
        · exact .inl listed
        · rename_i going
          rw [if_neg going]
          exact sparing.holdsRecords_serveRotation coherent stocked occasion listed
    | rotateBehind => exact sparing.holdsRecords_serveRotation coherent stocked occasion listed
    | add | flush | clear | flushBehind | reopen => cases rotation
  · cases shut : archive.journal.closed with
    | true =>
        rw [Journal.close, if_pos shut] at listed
        exact .inl listed
    | false =>
        obtain ⟨after, enlists⟩ := lastFlush_going coherent stocked shut occasion
        rw [closed_close shut, List.mem_append] at listed
        refine listed.imp (fun earlier => enlists.closed ▸ earlier) fun active => ?_
        by_cases vacant : segment ∈ (ofOutcome (archive.lastFlush occasion)).vacant
        · exact .inr vacant
        · rw [Journal.close_eq shut]
          exact .inl (after.holdsRecords active vacant)
  · cases shut : archive.journal.closed with
    | true =>
        have same : ofOutcome (archive.lastFlush occasion) = archive :=
          congrArg ofOutcome (if_pos shut)
        rw [same, vacant_of_idle (idle shut)] at vacant
        contradiction
    | false =>
        obtain ⟨after, _⟩ := lastFlush_going coherent stocked shut occasion
        obtain ⟨active, empty⟩ := after.mem_vacant_iff.mp vacant
        refine ⟨?_, ?_, ?_⟩
        · cases done : (archive.lastFlush occasion).answer with
          | error failure => exact ⟨failure, rfl⟩
          | ok count =>
              obtain ⟨journal, disk⟩ := archive
              have flush : lastFlush { journal, disk } occasion =
                  journal.serveFlush occasion true disk := whileOpen_going shut disk _
              rw [flush] at done vacant
              rw [sparing.vacant_flushed coherent stocked files done] at vacant
              contradiction
        · rw [closed_close shut]
          exact List.mem_append_right _ active
        · rw [Journal.close_eq shut]
          exact empty

/-- In every session on a directory in which there was nothing at first a file is empty only while
the first batch of its segment waits in memory, or because it was left so. A rotation closes no
segment without records, and a close only one to which nothing could be written at all, which is
then left empty. -/
theorem empty_files_are_left_by_failed_flushes (nothing : start.list = .ok [])
    (leftover : Leftover start left archive) : Filled left archive :=
  (leftover.sparing nothing).filled (leftover.orderly nothing) nothing

/-- A record is written to a first segment, which is closed. Another one comes in. -/
def secondRecord : Archive :=
  performAll { journal := (Pipeline.fresh plainPolicy).journal, disk := {} }
    [recordingDeed, rotationDeed, recordingDeed]

/-- The log is closed on a full disk. -/
def closedFull : Archive :=
  ofOutcome (secondRecord.journal.close
    { now := default, obstacles := { growthLimit := some 0 } } secondRecord.disk)

/-- The file of the second segment is all that was left empty. -/
theorem empty_files_are_left_by_failed_flushes_full :
    ∃ left, Leftover {} left closedFull ∧
      left = ["querylog-00000002-19700101T000000Z.jsonl"] ∧ Filled left closedFull := by
  have first : Leftover {} [] { journal := (Pipeline.fresh plainPolicy).journal, disk := {} } :=
    .opened openOn_missing
  have added : Leftover {} _ (perform _ recordingDeed) := first.performed nofun fun _ => rfl
  have rotated : Leftover {} _ (perform _ rotationDeed) := added.performed nofun fun _ => rfl
  have again : Leftover {} _ (perform _ recordingDeed) := rotated.performed nofun fun _ => rfl
  have closed := again.closed { now := default, obstacles := { growthLimit := some 0 } }
  exact ⟨_, closed, by decide +kernel, empty_files_are_left_by_failed_flushes rfl closed⟩

/-- The numbers of the segments that a log lists, and whether their files are empty. -/
def holdings (journal : Journal) (disk : Disk) : List (Nat × Bool) :=
  journal.segments.map fun status =>
    (status.segment.number, disk.content? status.segment.name == some [])

theorem sorted_of_ascending {segments : List Segment}
    (ascending : segments.Pairwise fun older newer => older.number ≤ newer.number) :
    Segment.sorted segments = segments :=
  List.mergeSort_of_pairwise (by simpa using ascending)

/-- The last flush fails, so the second segment is closed and empty. It displaces the first one, and
its record, when the directory is opened again to keep one segment. -/
theorem empty_segment_displaces_record :
    holdings closedFull.journal closedFull.disk = [(1, false), (2, true)] ∧
      ∃ journal disk, Journal.openOn thriftyPolicy .none closedFull.disk = (.ok journal, disk) ∧
        holdings journal disk = [(2, true)] ∧ disk.names.length = 1 := by
  let listed := (closedFull.disk.names.filter Segment.isCandidate).filterMap fun name =>
    Segment.parse? (Path.join thriftyPolicy.directory name)
  have sorted : Segment.sorted listed = listed := sorted_of_ascending (by decide +kernel)
  have found : Segment.found thriftyPolicy.directory closedFull.disk = listed := sorted
  have catalog : (Journal.openedOn thriftyPolicy closedFull.disk).catalog =
      { closed := listed
        active := none
        nextNumber := 3 } := by
    rw [Journal.openedOn, found, Catalog.ofExisting, sorted]
    decide +kernel
  have usable : closedFull.disk.IsUsable := by
    rw [Disk.IsUsable]
    decide +kernel
  refine ⟨by decide +kernel, _, _, openOn_pruned rfl usable .none, ?_⟩
  rw [holdings, Journal.segments, catalog]
  decide +kernel

end Archive

end QueryJournal
