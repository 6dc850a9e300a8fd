import QueryJournal.Proofs.Journal.Retrieval

namespace QueryJournal

open QueryJournal.Segment (IsTidy found)
open QueryJournal.Storage
open QueryJournal.Utf8 (Bytes)

/-!
The lines that lie in a directory, from the oldest segment to the newest one. They stand in the order
in which they were written, over all sessions, whatever was rotated, given up or cleared in the
meantime.
-/

namespace Segment

variable {directory : String} {disk : Disk} {segment : Segment} {segments : List Segment}

/-- The lines in the file of a segment, of which one without a file has none. -/
def linesIn (disk : Disk) (segment : Segment) : List Bytes :=
  match disk.find? segment.name with
  | some (.file _ content) => Backward.pieces content
  | _ => []

/-- All lines in a directory, those of the oldest segment first. -/
def storedLines (directory : String) (disk : Disk) : List Bytes :=
  (found directory disk).flatMap (linesIn disk)

/-- The segment is a file of whole lines of records. -/
def IsWritten (disk : Disk) (segment : Segment) : Prop :=
  ∃ identity entries, disk.find? segment.name = some (.file identity (Entry.lines entries))

/-- All segments in a directory are files of whole lines of records. -/
def AllWritten (directory : String) (disk : Disk) : Prop :=
  ∀ segment ∈ found directory disk, IsWritten disk segment

theorem linesIn_of_file {identity : Nat} {entries : List Entry}
    (placed : disk.find? segment.name = some (.file identity (Entry.lines entries))) :
    linesIn disk segment = entries.map Entry.lineBody := by
  rw [linesIn, placed]
  exact Entry.pieces_lines entries

/-- Segments that are told apart by their names are the same under one name. -/
theorem eq_of_name {other : Segment} (tidy : IsTidy disk) (member : segment ∈ found directory disk)
    (also : other ∈ found directory disk) (same : other.name = segment.name) : other = segment := by
  have read := ((mem_found tidy).mp also).2.2
  rw [same, ((mem_found tidy).mp member).2.2] at read
  exact (Option.some.inj read).symm

/-- Where only the newest segment grew the lines that it got come last. -/
theorem flatMap_grown {before after : Segment → List Bytes} {lines : List Bytes}
    (ascending : segments.Pairwise fun older newer => older.number < newer.number)
    (member : segment ∈ segments)
    (newest : ∀ other ∈ segments, other ≠ segment → other.number < segment.number)
    (grown : after segment = before segment ++ lines)
    (same : ∀ other ∈ segments, other ≠ segment → after other = before other) :
    segments.flatMap after = segments.flatMap before ++ lines := by
  obtain ⟨older, newer, rfl⟩ := List.append_of_mem member
  obtain ⟨_, ordered, between⟩ := List.pairwise_append.mp ascending
  have last : newer = [] := by
    refine List.eq_nil_iff_forall_not_mem.mpr fun other later => ?_
    have above := (List.pairwise_cons.mp ordered).1 other later
    have below := newest other (by simp [later]) fun equal => Nat.lt_irrefl _ (equal ▸ above)
    exact Nat.lt_asymm above below
  have kept : older.flatMap after = older.flatMap before := by
    refine List.flatMap_congr fun other earlier => same other (by simp [earlier]) ?_
    rintro rfl
    exact Nat.lt_irrefl _ (between other earlier other List.mem_cons_self)
  subst last
  simp [kept, grown]

/-- Segments of which some are gone and only new and empty ones have come have no more lines. -/
theorem flatMap_fewer {left right : List Segment} {lines : Segment → List Bytes}
    (ascending : left.Pairwise fun older newer => older.number < newer.number)
    (also : right.Pairwise fun older newer => older.number < newer.number)
    (known : ∀ segment ∈ right, segment ∈ left ∨ lines segment = []) :
    (right.flatMap lines).Sublist (left.flatMap lines) := by
  have same : right.filter (· ∈ left) = left.filter (· ∈ right) := by
    refine eq_of_ascending (also.filter _) (ascending.filter _) fun segment => ?_
    simp only [List.mem_filter, decide_eq_true_eq, and_comm]
  have whole : right.flatMap lines = (right.filter (· ∈ left)).flatMap lines := by
    clear same also ascending
    induction right with
    | nil => rfl
    | cons segment right ih =>
        have rest := ih fun other member => known other (List.mem_cons_of_mem _ member)
        rw [List.filter_cons, List.flatMap_cons, rest]
        split
        · rfl
        · rename_i missing
          have none := (known segment List.mem_cons_self).resolve_left (by simpa using missing)
          rw [none, List.nil_append]
  rw [whole, same]
  exact List.filter_sublist.flatMap lines

end Segment

namespace Archive

open Segment (AllWritten IsWritten linesIn storedLines)

variable {directory : String} {start disk : Disk} {occasion : Occasion}
  {archive before after : Archive} {written : List Entry} {gone : Segment → Prop}
  {segment : Segment}

/-!
### What lies in files
-/

/-- Directories are neither made nor put in the place of files. -/
theorem AppendOnly.directory_before {name : String}
    (appends : AppendOnly occasion before after written gone)
    (placed : after.disk.find? name = some .directory) :
    before.disk.find? name = some .directory := by
  cases earlier : before.disk.find? name with
  | none =>
      rcases appends.fresh name earlier with absent | ⟨_, _, made⟩
      · simp [absent] at placed
      · simp [made] at placed
  | some node =>
      have present : before.disk.find? name ≠ none := by simp [earlier]
      rw [← earlier, ← placed]
      by_cases listed : name ∈ before.journal.held.map Segment.name
      · obtain ⟨segment, member, rfl⟩ := List.mem_map.mp listed
        rcases List.mem_append.mp member with closed | current
        · exact ((appends.closed segment closed).resolve_right (by simp [placed])).symm
        · rw [Option.mem_toList, Option.map_eq_some_iff] at current
          obtain ⟨active, there, rfl⟩ := current
          obtain ⟨_, _, _, _, grown | ⟨absent, _⟩⟩ := appends.active active there
          · simp [grown] at placed
          · simp [absent] at placed
      · exact (appends.foreign name present listed).symm

theorem Sessions.directory_before (tidy : IsTidy start) (single : start.names.Nodup)
    (numbered : start.Numbered) (distinct : ((found directory start).map Segment.number).Nodup)
    (sessions : Sessions directory start archive) {name : String}
    (placed : archive.disk.find? name = some .directory) :
    start.find? name = some .directory := by
  have opens {disk later : Disk} {policy : Policy} {obstacles : Obstacles} {journal : Journal}
      (tidy : IsTidy disk) (single : disk.names.Nodup)
      (opened : Journal.openOn policy obstacles disk = (.ok journal, later))
      (placed : later.find? name = some .directory) : disk.find? name = some .directory := by
    rcases ((opensGently tidy single) policy obstacles).2 journal later opened name with
      same | ⟨absent, _⟩
    · exact same ▸ placed
    · simp [absent] at placed
  induction sessions with
  | first _ opened => exact opens tidy single opened placed
  | performed earlier still _ _ ih =>
      have orderly := (earlier.registered tidy single numbered distinct).orderly
      exact ih ((orderly.performed still).directory_before placed)
  | @closed _ occasion earlier _ ih =>
      have orderly := (earlier.registered tidy single numbered distinct).orderly
      have closing : AppendOnly occasion _ _ _ fun _ => False := orderly.closing occasion
      exact ih (closing.directory_before placed)
  | reopened earlier _ opened ih =>
      have stocked := (earlier.registered tidy single numbered distinct).orderly.stocked
      exact ih (opens stocked.tidy stocked.single opened placed)

/-- Sessions leave nothing but whole lines behind where they found nothing else. -/
theorem Sessions.allWritten (tidy : IsTidy start) (single : start.names.Nodup)
    (numbered : start.Numbered) (distinct : ((found directory start).map Segment.number).Nodup)
    (lined : AllWritten directory start) (sessions : Sessions directory start archive) :
    AllWritten directory archive.disk := by
  obtain ⟨coherent, stocked, _⟩ := (sessions.registered tidy single numbered distinct).orderly
  intro segment member
  obtain ⟨_, known⟩ := (Segment.mem_found stocked.tidy).mp member
  have old {node : Node} (there : start.find? segment.name = some node) :
      segment ∈ found directory start :=
    (Segment.mem_found tidy).mpr ⟨Disk.mem_names_iff.mpr ⟨node, there⟩, known⟩
  obtain ⟨node, placed⟩ := Segment.find?_of_mem_found stocked.tidy member
  cases node with
  | directory =>
      have there := sessions.directory_before tidy single numbered distinct placed
      obtain ⟨_, _, file⟩ := lined segment (old there)
      simp [there] at file
  | file identity content =>
      cases (coherent.files _ _ _ placed).2 with
      | found _ there =>
          obtain ⟨_, entries, file⟩ := lined segment (old there)
          rw [there, Option.some.injEq, Node.file.injEq] at file
          exact ⟨identity, entries, file.2 ▸ placed⟩
      | made _ entries lines => exact ⟨identity, entries, lines ▸ placed⟩

/-!
### The order of lines
-/

/-- What becomes of the lines of a segment that is found: nothing, or it is the active one and gets
what was written, or it is new and has nothing else. -/
inductive Lines (occasion : Occasion) (before after : Archive) (written : List Entry)
    (directory : String) (segment : Segment) : Prop where
  | same (known : segment ∈ found directory before.disk)
      (lines : linesIn after.disk segment = linesIn before.disk segment)
  | grown (active : ActiveSegment) (known : segment ∈ found directory before.disk)
      (present : before.journal.catalog.active = some active)
      (name : segment.name = active.segment.name)
      (lines : linesIn after.disk segment =
        linesIn before.disk segment ++ written.map Entry.lineBody)
  | new (absent : before.disk.find? segment.name = none)
      (inactive : before.journal.catalog.active = none)
      (name : segment.name = (before.upcoming occasion).name)
      (lines : linesIn after.disk segment = written.map Entry.lineBody)

theorem AppendOnly.lines (appends : AppendOnly occasion before after written gone)
    (coherent : Coherent start before) (tidy : IsTidy before.disk) (still : IsTidy after.disk)
    (member : segment ∈ found directory after.disk) :
    Lines occasion before after written directory segment := by
  obtain ⟨node, placed⟩ := Segment.find?_of_mem_found still member
  have there : after.disk.find? segment.name ≠ none := by simp [placed]
  cases earlier : before.disk.find? segment.name with
  | none =>
      obtain ⟨inactive, name, made⟩ := (appends.fresh segment.name earlier).resolve_left there
      exact .new earlier inactive name (Segment.linesIn_of_file made)
  | some node =>
      have known : segment ∈ found directory before.disk :=
        (Segment.mem_found tidy).mpr
          ⟨Disk.mem_names_iff.mpr ⟨node, earlier⟩, ((Segment.mem_found still).mp member).2⟩
      have kept (same : after.disk.find? segment.name = before.disk.find? segment.name) :
          Lines occasion before after written directory segment :=
        .same known (by rw [linesIn, linesIn, same])
      by_cases listed : segment.name ∈ before.journal.held.map Segment.name
      · obtain ⟨own, held, name⟩ := List.mem_map.mp listed
        rcases List.mem_append.mp held with closed | current
        · refine kept ?_
          rw [← name] at there ⊢
          exact (appends.closed own closed).resolve_right fun absent => there absent.1
        · rw [Option.mem_toList, Option.map_eq_some_iff] at current
          obtain ⟨active, present, rfl⟩ := current
          obtain ⟨_, attached⟩ := coherent.writer_of_active present
          obtain ⟨entries, first⟩ := attached.lines coherent
          obtain ⟨identity, content, file, _, grown⟩ := appends.active active present
          rw [first, Option.some.injEq, Node.file.injEq] at file
          obtain ⟨rfl, rfl⟩ := file
          rw [name] at first grown
          have grown := grown.resolve_right fun absent => there absent.1
          rw [← Entry.lines_append] at grown
          refine .grown active known present name.symm ?_
          rw [Segment.linesIn_of_file grown, Segment.linesIn_of_file first, List.map_append]
      · exact kept (appends.foreign segment.name (by simp [earlier]) listed)

/-- An operation that only appends leaves some of the lines, and what it writes comes behind them. -/
theorem AppendOnly.storedLines_sublist (appends : AppendOnly occasion before after written gone)
    (ordered : Ordered directory before) (coherent : Coherent start before)
    (named : ∀ segment ∈ before.current, Named directory segment) (still : IsTidy after.disk)
    (distinct : ((found directory after.disk).map Segment.number).Nodup) :
    (storedLines directory after.disk).Sublist
      (storedLines directory before.disk ++ written.map Entry.lineBody) := by
  have lines {segment : Segment} (member : segment ∈ found directory after.disk) :=
    appends.lines coherent ordered.tidy still member
  have ascending := Segment.pairwise_found distinct
  have fewer : ((found directory after.disk).flatMap (linesIn before.disk)).Sublist
      (storedLines directory before.disk) := by
    refine Segment.flatMap_fewer (Segment.pairwise_found ordered.distinct) ascending ?_
    intro segment member
    cases lines member with
    | same known _ => exact .inl known
    | grown _ known _ _ _ => exact .inl known
    | new absent _ _ _ => exact .inr (by rw [linesIn, absent])
  by_cases all : ∀ segment ∈ found directory after.disk,
      linesIn after.disk segment = linesIn before.disk segment
  · rw [storedLines, List.flatMap_congr all]
    exact fewer.trans (List.sublist_append_left _ _)
  · push Not at all
    obtain ⟨segment, member, changed⟩ := all
    suffices whole : storedLines directory after.disk =
        (found directory after.disk).flatMap (linesIn before.disk) ++
          written.map Entry.lineBody by
      rw [whole]
      exact fewer.append_right _
    cases lines member with
    | same _ lines => exact absurd lines changed
    | grown active known present name grown =>
        have own : segment = active.segment := by
          have read := ((Segment.mem_found ordered.tidy).mp known).2.2
          have current : active.segment ∈ before.current := by
            rw [Archive.current, present]
            exact List.mem_singleton_self _
          rw [name, (named active.segment current).2] at read
          exact (Option.some.inj read).symm
        have alone {other : Segment} (also : other ∈ found directory after.disk)
            (apart : other ≠ segment) : other.name ≠ active.segment.name :=
          fun same => apart (Segment.eq_of_name still member also (same.trans name.symm))
        refine Segment.flatMap_grown ascending member ?_ grown ?_
        · intro other also apart
          rw [own]
          cases lines also with
          | same known _ => exact ordered.newest active present other known (alone also apart)
          | grown _ known _ _ _ =>
              exact ordered.newest active present other known (alone also apart)
          | new _ inactive _ _ => simp [present] at inactive
        · intro other also apart
          cases lines also with
          | same _ lines => exact lines
          | grown _ _ there name _ =>
              rw [present, Option.some.injEq] at there
              exact absurd (there ▸ name) (alone also apart)
          | new _ inactive _ _ => simp [present] at inactive
    | new absent inactive name grown =>
        have number : segment.number = before.journal.catalog.nextNumber := by
          have upcoming : before.upcoming occasion =
              Segment.inDirectory directory before.journal.catalog.nextNumber occasion.now :=
            ordered.placed ▸ rfl
          have read := ((Segment.mem_found still).mp member).2.2
          rw [name, upcoming] at read
          exact Segment.number_of_parse? read
        have alone {other : Segment} (also : other ∈ found directory after.disk)
            (apart : other ≠ segment) : other ∈ found directory before.disk ∧
              linesIn after.disk other = linesIn before.disk other := by
          cases lines also with
          | same known lines => exact ⟨known, lines⟩
          | grown _ _ present _ _ => simp [present] at inactive
          | new _ _ same _ =>
              exact absurd (Segment.eq_of_name still member also (same.trans name.symm)) apart
        refine Segment.flatMap_grown ascending member ?_ ?_ fun other also apart =>
          (alone also apart).2
        · intro other also apart
          rw [number]
          exact ordered.known other (alone also apart).1
        · rw [grown, linesIn, absent]
          rfl

/-!
### All sessions
-/

/-- Sessions on one directory, with the records that were reported as written, in the order in which
they were. -/
inductive Wrote (directory : String) (start : Disk) : List Entry → Archive → Prop where
  | first {policy : Policy} {obstacles : Obstacles} {journal : Journal} {disk : Disk}
      (placed : policy.directory = directory)
      (opened : Journal.openOn policy obstacles start = (.ok journal, disk)) :
      Wrote directory start [] { journal, disk }
  | performed {written : List Entry} {archive : Archive} {deed : Deed}
      (earlier : Wrote directory start written archive)
      (still : ∀ policy, deed.operation ≠ .reopen policy)
      (awake : archive.journal.closed = true → deed.operation.isUpkeep = false)
      (timely : archive.Timely deed.occasion) :
      Wrote directory start (written ++ archive.reports deed) (archive.perform deed)
  | closed {written : List Entry} {archive : Archive} {occasion : Occasion}
      (earlier : Wrote directory start written archive) (timely : archive.Timely occasion) :
      Wrote directory start (written ++ archive.lastReports occasion)
        (ofOutcome (archive.journal.close occasion archive.disk))
  | reopened {written : List Entry} {archive : Archive} {policy : Policy} {obstacles : Obstacles}
      {journal : Journal} {disk : Disk} (earlier : Wrote directory start written archive)
      (placed : policy.directory = directory)
      (opened : Journal.openOn policy obstacles archive.disk = (.ok journal, disk)) :
      Wrote directory start written { journal, disk }

theorem Wrote.sessions (wrote : Wrote directory start written archive) :
    Sessions directory start archive := by
  induction wrote with
  | first placed opened => exact .first placed opened
  | performed _ still awake timely ih => exact .performed ih still awake timely
  | closed _ timely ih => exact .closed ih timely
  | reopened _ placed opened ih => exact .reopened ih placed opened

/-- Opening a log leaves some of the segments as they are. -/
theorem storedLines_openOn {policy : Policy} {obstacles : Obstacles} {journal : Journal}
    {later : Disk} (tidy : IsTidy disk) (single : disk.names.Nodup)
    (distinct : ((found directory disk).map Segment.number).Nodup)
    (still : IsTidy later) (apart : ((found directory later).map Segment.number).Nodup)
    (opened : Journal.openOn policy obstacles disk = (.ok journal, later)) :
    (storedLines directory later).Sublist (storedLines directory disk) := by
  have same {segment : Segment} (member : segment ∈ found directory later) :
      later.find? segment.name = disk.find? segment.name := by
    obtain ⟨node, placed⟩ := Segment.find?_of_mem_found still member
    refine (((opensGently tidy single) policy obstacles).2 journal later opened
      segment.name).resolve_right fun gone => ?_
    simp [placed] at gone
  have lines : storedLines directory later = (found directory later).flatMap (linesIn disk) :=
    List.flatMap_congr fun segment member => by rw [linesIn, linesIn, same member]
  rw [lines]
  refine Segment.flatMap_fewer (Segment.pairwise_found distinct) (Segment.pairwise_found apart) ?_
  intro segment member
  obtain ⟨node, placed⟩ := Segment.find?_of_mem_found still member
  rw [same member] at placed
  exact .inl ((Segment.mem_found tidy).mpr
    ⟨Disk.mem_names_iff.mpr ⟨node, placed⟩, ((Segment.mem_found still).mp member).2⟩)

/-- The lines in a directory stand in the order in which they were written, behind those that were
there at the start. -/
theorem Wrote.storedLines_sublist (tidy : IsTidy start) (single : start.names.Nodup)
    (numbered : start.Numbered) (distinct : ((found directory start).map Segment.number).Nodup)
    (wrote : Wrote directory start written archive) :
    (storedLines directory archive.disk).Sublist
      (storedLines directory start ++ written.map Entry.lineBody) := by
  have registered {written : List Entry} {archive : Archive}
      (wrote : Wrote directory start written archive) : Registered directory start archive :=
    wrote.sessions.registered tidy single numbered distinct
  have extend {written batch : List Entry} {lines later : List Bytes}
      (earlier : lines.Sublist (storedLines directory start ++ written.map Entry.lineBody))
      (further : later.Sublist (lines ++ batch.map Entry.lineBody)) :
      later.Sublist (storedLines directory start ++ (written ++ batch).map Entry.lineBody) := by
    rw [List.map_append, ← List.append_assoc]
    exact further.trans (earlier.append_right _)
  have appended {written batch : List Entry} {before after : Archive} {occasion : Occasion}
      {gone : Segment → Prop} (earlier : Registered directory start before)
      (later : Registered directory start after)
      (appends : AppendOnly occasion before after batch gone)
      (same : before.journal.policy.fileEnabled = false → after.disk = before.disk)
      (ih : (storedLines directory before.disk).Sublist
        (storedLines directory start ++ written.map Entry.lineBody)) :
      (storedLines directory after.disk).Sublist
        (storedLines directory start ++ (written ++ batch).map Entry.lineBody) := by
    refine extend ih ?_
    cases files : before.journal.policy.fileEnabled with
    | true =>
        exact appends.storedLines_sublist (earlier.filed files) earlier.orderly.coherent
          earlier.named later.orderly.stocked.tidy later.distinct
    | false =>
        rw [same files]
        exact List.sublist_append_left _ _
  induction wrote with
  | first placed opened =>
      have opening := registered (.first placed opened)
      rw [List.map_nil, List.append_nil]
      exact storedLines_openOn tidy single distinct opening.orderly.stocked.tidy opening.distinct
        opened
  | performed earlier still awake timely ih =>
      have before := registered earlier
      exact appended before (registered (.performed earlier still awake timely))
        (before.orderly.performed still) (fun off => ((before.unfiled off).perform still).2) ih
  | @closed _ archive occasion earlier timely ih =>
      have before := registered earlier
      have closing : AppendOnly occasion archive _ _ fun _ => False :=
        before.orderly.closing occasion
      exact appended before (registered (.closed earlier timely)) closing
        (fun off => ((before.unfiled off).close occasion).2) ih
  | reopened earlier placed opened ih =>
      have before := registered earlier
      have after := registered (.reopened earlier placed opened)
      exact (storedLines_openOn before.orderly.stocked.tidy before.orderly.stocked.single
        before.distinct after.orderly.stocked.tidy after.distinct opened).trans ih

end Archive

end QueryJournal
