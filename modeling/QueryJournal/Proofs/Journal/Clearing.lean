import QueryJournal.Proofs.Journal.Ordering

namespace QueryJournal

open QueryJournal.Segment (IsTidy found)
open QueryJournal.Storage

/-!
What a clear leaves behind. The index forgets a segment before its file is removed, so a file that
cannot be removed is not tried again before the directory is opened anew. No other file stays.
-/

/-!
### What is left of files that are removed
-/

namespace Storage.Disk

variable {disk after : Disk} {obstacles : Obstacles} {name : String}

theorem find?_of_remove_ok (removed : disk.remove obstacles name = (.ok (), after)) :
    after.find? name = none := by
  simp only [remove] at removed
  cases place : disk.place with
  | missing =>
      simp only [place, Prod.mk.injEq] at removed
      rw [← removed.2]
      simp only [find?, place]
  | occupied => simp [place] at removed
  | folder nodes =>
      simp only [place] at removed
      cases taken : Folder.find? nodes name with
      | none =>
          simp only [taken, Prod.mk.injEq] at removed
          rw [← removed.2]
          simp only [find?, place, taken]
      | some node =>
          cases node with
          | directory => simp [taken] at removed
          | file identity content =>
              simp only [taken] at removed
              split at removed
              · simp at removed
              · simp only [Prod.mk.injEq] at removed
                rw [← removed.2]
                exact Folder.find?_erase_self nodes name

/-- Nobody removes a directory. -/
theorem find?_remove_directory {other : String} (placed : disk.find? other = some .directory) :
    (disk.remove obstacles name).2.find? other = some .directory := by
  by_cases same : other = name
  · subst same
    cases place : disk.place with
    | missing => simp [find?, place] at placed
    | occupied => simp [find?, place] at placed
    | folder nodes =>
        have there : Folder.find? nodes other = some .directory := by
          simpa only [find?, place] using placed
        simpa only [remove, place, there] using placed
  · rw [find?_remove_ne obstacles disk same, placed]

end Storage.Disk

namespace Journal

variable {disk : Disk} {obstacles : Obstacles} {segments : List Segment} {segment : Segment}

theorem find?_removeAll_directory {name : String} (placed : disk.find? name = some .directory) :
    (removeAll obstacles disk segments).2.find? name = some .directory := by
  induction segments generalizing disk with
  | nil => exact placed
  | cons first segments ih => exact ih (Disk.find?_remove_directory placed)

theorem find?_of_removeAll_ok (removed : (removeAll obstacles disk segments).1 = .ok ())
    (member : segment ∈ segments) :
    (removeAll obstacles disk segments).2.find? segment.name = none := by
  induction segments generalizing disk with
  | nil => simp at member
  | cons first segments ih =>
      cases done : disk.remove obstacles first.name with
      | mk answer after =>
          simp only [removeAll, done] at removed ⊢
          cases answer with
          | error failure => simp at removed
          | ok _ =>
              rcases List.mem_cons.mp member with rfl | later
              · cases left : (removeAll obstacles after segments).2.find? segment.name with
                | none => rfl
                | some node =>
                    have earlier := Indexed.find?_of_find?_removeAll left
                    rw [Disk.find?_of_remove_ok done] at earlier
                    contradiction
              · exact ih removed later

theorem find?_removeAll_ne {name : String} (other : name ∉ segments.map Segment.name) :
    (removeAll obstacles disk segments).2.find? name = disk.find? name := by
  induction segments generalizing disk with
  | nil => rfl
  | cons first segments ih =>
      rw [List.map_cons, List.mem_cons, not_or] at other
      exact (ih other.2).trans (Disk.find?_remove_ne obstacles disk other.1)

/-- What stays under a name that was to be removed was refused, or is a directory. -/
theorem left_removeAll {node : Node} (member : segment ∈ segments)
    (left : (removeAll obstacles disk segments).2.find? segment.name = some node) :
    obstacles.refusesRemoval segment.name = true ∨ node = .directory := by
  induction segments generalizing disk with
  | nil => simp at member
  | cons first segments ih =>
      rcases List.mem_cons.mp member with rfl | later
      · cases refused : obstacles.refusesRemoval segment.name with
        | true => exact .inl rfl
        | false =>
            cases node with
            | directory => exact .inr rfl
            | file identity content =>
                have earlier : (disk.remove obstacles segment.name).2.find? segment.name =
                    some (.file identity content) := Indexed.find?_of_find?_removeAll left
                exact absurd earlier (Disk.find?_remove_file refused disk)
      · exact ih later left

end Journal

namespace Archive

variable {directory : String} {start disk remaining : Disk} {occasion : Occasion}
  {occasions : List Occasion} {archive before after : Archive} {policy : Policy}
  {journal : Journal} {name : String}

/-- A file may be left if its removal was refused at one of the occasions. A directory always is. -/
def Excused (occasions : List Occasion) (disk : Disk) (name : String) : Prop :=
  (∃ occasion ∈ occasions, occasion.obstacles.refusesRemoval name = true) ∨
    disk.find? name = some .directory

/-- Every segment in the directory is in the index, or there is a reason why it is not. -/
structure Accounted (directory : String) (occasions : List Occasion) (archive : Archive) : Prop where
  placed : archive.journal.policy.directory = directory
  shut : archive.journal.writer = none → archive.journal.catalog.active = none
  tidy : IsTidy archive.disk
  known : ∀ segment ∈ found directory archive.disk,
    segment.name ∈ archive.journal.held.map Segment.name ∨
      Excused occasions archive.disk segment.name

theorem Excused.later (excused : Excused occasions disk name)
    (stays : disk.find? name = some .directory → remaining.find? name = some .directory) :
    Excused (occasion :: occasions) remaining name := by
  rcases excused with ⟨refusing, member, refused⟩ | place
  · exact .inl ⟨refusing, List.mem_cons_of_mem _ member, refused⟩
  · exact .inr (stays place)

theorem Accounted.later (accounted : Accounted directory occasions archive) (occasion : Occasion) :
    Accounted directory (occasion :: occasions) archive :=
  { placed := accounted.placed
    shut := accounted.shut
    tidy := accounted.tidy
    known := fun segment member => (accounted.known segment member).imp_right (.later · id) }

/-- The names stay, and the index forgets none of them. -/
theorem Accounted.same (accounted : Accounted directory (occasion :: occasions) before)
    (policy : after.journal.policy = before.journal.policy)
    (shut : after.journal.writer = none → after.journal.catalog.active = none)
    (held : after.journal.held = before.journal.held)
    (names : after.disk.names = before.disk.names)
    (directories : ∀ name, before.disk.find? name = some .directory →
      after.disk.find? name = some .directory) :
    Accounted directory (occasion :: occasions) after := by
  refine
    { placed := policy ▸ accounted.placed
      shut
      tidy := ?_
      known := ?_ }
  · rw [IsTidy, names]
    exact accounted.tidy
  · intro segment member
    rw [found, names] at member
    rw [held]
    exact (accounted.known segment member).imp_right (Or.imp_right (directories _))

/-- Of what the index gives up only that stays which cannot be removed. -/
theorem Accounted.remove {segments : List Segment}
    (accounted : Accounted directory (occasion :: occasions) before)
    (policy : after.journal.policy = before.journal.policy)
    (shut : after.journal.writer = none → after.journal.catalog.active = none)
    (held : ∀ segment ∈ before.journal.held, segment ∈ segments ∨ segment ∈ after.journal.held)
    (removed : after.disk = (Journal.removeAll occasion.obstacles before.disk segments).2) :
    Accounted directory (occasion :: occasions) after := by
  have fewer : after.disk.names.Sublist before.disk.names := by
    rw [removed]
    exact Indexed.names_removeAll _ _ _
  have tidy : IsTidy after.disk := fun name member => accounted.tidy name (fewer.subset member)
  refine ⟨policy ▸ accounted.placed, shut, tidy, fun segment member => ?_⟩
  obtain ⟨node, there⟩ := Segment.find?_of_mem_found tidy member
  rcases accounted.known segment (Segment.mem_found_of_sublist accounted.tidy fewer member) with
    listed | excused
  · obtain ⟨known, listed, same⟩ := List.mem_map.mp listed
    rcases held known listed with given | kept
    · rw [removed, ← same] at there
      rcases Journal.left_removeAll given there with refused | rfl
      · exact .inr (.inl ⟨occasion, List.mem_cons_self, same ▸ refused⟩)
      · exact .inr (.inr (by rw [removed, ← same, there]))
    · exact .inl (List.mem_map.mpr ⟨known, kept, same⟩)
  · refine .inr (excused.imp_right fun place => ?_)
    rw [removed]
    exact Journal.find?_removeAll_directory place

theorem Accounted.make {segment : Segment}
    (accounted : Accounted directory (occasion :: occasions) before)
    (policy : after.journal.policy = before.journal.policy)
    (shut : after.journal.writer = none → after.journal.catalog.active = none)
    (proper : '/' ∉ segment.name.toList)
    (held : after.journal.held = before.journal.held ++ [segment])
    (names : after.disk.names = before.disk.names ++ [segment.name])
    (others : ∀ name, before.disk.find? name = some .directory →
      after.disk.find? name = some .directory) :
    Accounted directory (occasion :: occasions) after := by
  have tidy : IsTidy after.disk := by
    intro name member
    rw [names, List.mem_append, List.mem_singleton] at member
    rcases member with earlier | rfl
    · exact accounted.tidy name earlier
    · exact proper
  refine ⟨policy ▸ accounted.placed, shut, tidy, fun other member => ?_⟩
  obtain ⟨listed, known⟩ := (Segment.mem_found tidy).mp member
  rw [names, List.mem_append, List.mem_singleton] at listed
  rw [held, List.map_append, List.mem_append]
  rcases listed with earlier | new
  · have there := (Segment.mem_found accounted.tidy).mpr ⟨earlier, known⟩
    rcases accounted.known other there with listed | excused
    · exact .inl (.inl listed)
    · exact .inr (excused.imp_right (others _))
  · exact .inl (.inr (by rw [new]; exact List.mem_singleton_self _))

theorem find?_modify_directory (placed : disk.find? name = some .directory) (identity : Nat)
    (change : Utf8.Bytes → Utf8.Bytes) :
    (disk.modify identity change).find? name = some .directory := by
  rw [Disk.find?_modify, placed]
  rfl

theorem Accounted.move (accounted : Accounted directory (occasion :: occasions) before)
    (move : Move occasion before after) : Accounted directory (occasion :: occasions) after := by
  cases move with
  | remember policy catalog writer =>
      refine accounted.same policy ?_ ?_ rfl fun _ => id
      · rw [writer, catalog]
        exact accounted.shut
      · rw [Journal.held, Journal.held, catalog]
  | refuse absent refused =>
      refine accounted.same rfl accounted.shut rfl ?_ fun name placed => ?_
      · rw [Disk.names, Disk.names, SegmentWriter.folder?_create_error refused]
      · rw [(SegmentWriter.create_error refused).2 name, placed]
  | make absent made =>
      obtain ⟨_, names⟩ := SegmentWriter.names_create_ok made
      obtain ⟨_, _, free, _, others⟩ := SegmentWriter.create_ok made
      have held := Catalog.takeAll_activate (accounted.shut absent)
      refine accounted.make rfl (fun absent => absurd absent (Option.some_ne_none _)) ?_ (held _)
        names fun name placed => ?_
      · rw [Catalog.allocate, Segment.name_inDirectory]
        exact (Segment.isName_fileName _ _).1
      · rw [others name, placed]
        rintro rfl
        rw [placed] at free
        contradiction
  | fail batch present =>
      refine accounted.same rfl accounted.shut rfl ?_ fun name placed => ?_
      · simp [SegmentWriter.rollBack, SegmentWriter.writePart]
      · exact find?_modify_directory (find?_modify_directory placed _ _) _ _
  | land present whole =>
      refine accounted.same rfl (fun absent => absurd absent (Option.some_ne_none _))
        (Catalog.takeAll_commit _ _) ?_ fun name placed => ?_
      · simp [SegmentWriter.writePart]
      · exact find?_modify_directory placed _ _
  | release =>
      exact accounted.same rfl (fun _ => Catalog.active_closeActive _)
        (Catalog.takeAll_closeActive _) rfl fun _ => id
  | @prune journal _ released =>
      refine accounted.remove rfl (fun _ => ?_) (fun segment member => ?_) rfl
      · exact (Catalog.active_prune _ _).trans (accounted.shut released)
      · rw [Journal.held, ← Catalog.takeAll_prune journal.catalog journal.policy.keptSegments]
          at member
        exact List.mem_append.mp member

theorem Accounted.clear (accounted : Accounted directory (occasion :: occasions) archive) :
    Accounted directory (occasion :: occasions)
      (ofOutcome (archive.journal.clear occasion archive.disk)) := by
  rw [Journal.clear, Journal.whileOpen]
  split
  · exact accounted
  · exact accounted.remove rfl (fun _ => rfl) (fun _ member => .inl member) rfl

/-- A log that is opened finds every segment, whatever the one before knew. -/
theorem accounted_openOn (tidy : IsTidy disk) (files : policy.fileEnabled = true)
    (same : policy.directory = directory)
    (opened : Journal.openOn policy occasion.obstacles disk = (.ok journal, remaining)) :
    Accounted directory (occasion :: occasions) { journal, disk := remaining } := by
  subst same
  have first : Accounted policy.directory (occasion :: occasions)
      { journal := Journal.openedOn policy disk, disk } :=
    { placed := rfl
      shut := fun _ => rfl
      tidy
      known := fun segment member =>
        .inl (List.mem_map_of_mem (Journal.mem_held_openedOn.mpr member)) }
  exact first.move (move_openOn files opened)

theorem Reached.accounted (tidy : IsTidy start)
    (reached : Reached directory start occasions archive) :
    Accounted directory occasions archive := by
  induction reached with
  | opened files same opened => exact accounted_openOn tidy files same opened
  | performed _ still ih =>
      rcases perform_cases _ still with moves | cleared
      · exact moves.preserve Accounted.move (ih.later _)
      · rw [cleared]
        exact (ih.later _).clear
  | closed _ ih => exact (moves_close _ _ _).preserve Accounted.move (ih.later _)
  | reopened _ files same opened ih => exact accounted_openOn ih.tidy files same opened

/-!
### After a clear that succeeded
-/

theorem clear_ok (cleared : (journal.clear occasion disk).answer = .ok ()) :
    journal.closed = false ∧
      (Journal.removeAll occasion.obstacles disk journal.held).1 = .ok () ∧
        (journal.clear occasion disk).disk =
          (Journal.removeAll occasion.obstacles disk journal.held).2 ∧
          (journal.clear occasion disk).journal =
            { journal with
              buffer := journal.buffer.clear
              catalog := journal.catalog.takeAll.2
              writer := none } := by
  by_cases closed : journal.closed = true
  · simp [Journal.clear, Journal.whileOpen, closed] at cleared
  · rw [Journal.clear, Journal.whileOpen, if_neg closed] at cleared ⊢
    exact ⟨eq_false_of_ne_true closed, cleared, rfl, rfl⟩

theorem Accounted.left (accounted : Accounted directory occasions archive)
    (cleared : (archive.journal.clear occasion archive.disk).answer = .ok ()) {segment : Segment}
    (member : segment ∈ found directory (archive.journal.clear occasion archive.disk).disk) :
    Excused occasions (archive.journal.clear occasion archive.disk).disk segment.name := by
  obtain ⟨_, removed, disk, _⟩ := clear_ok cleared
  rw [disk] at member ⊢
  have fewer := Indexed.names_removeAll occasion.obstacles archive.disk archive.journal.held
  have tidy : IsTidy (Journal.removeAll occasion.obstacles archive.disk archive.journal.held).2 :=
    fun name listed => accounted.tidy name (fewer.subset listed)
  obtain ⟨node, there⟩ := Segment.find?_of_mem_found tidy member
  rcases accounted.known segment (Segment.mem_found_of_sublist accounted.tidy fewer member) with
    listed | excused
  · obtain ⟨known, held, same⟩ := List.mem_map.mp listed
    rw [← same, Journal.find?_of_removeAll_ok removed held] at there
    contradiction
  · exact excused.imp_right Journal.find?_removeAll_directory

/-- A log with nothing in memory leaves its directory alone when it is closed. -/
theorem disk_close (empty : journal.buffer.entries = #[]) :
    (journal.close occasion disk).disk = disk := by
  rw [Journal.close]
  split
  · rfl
  · simp only [Journal.serveFlush, Journal.flushBuffer, Buffer.pending, empty]
    split <;> rfl

theorem openOn_nothing (files : policy.fileEnabled = true)
    (nothing : found policy.directory disk = [])
    (opened : Journal.openOn policy occasion.obstacles disk = (.ok journal, remaining)) :
    journal.segments = [] ∧ ∀ clock request, ∃ report,
      journal.search clock request remaining = .ok report ∧
        report.page =
          { entries := [], matched := 0, oldest := none, skipped := 0, truncated := false } := by
  obtain ⟨_, rfl, rfl⟩ := openOn_ok files opened
  have listed := Catalog.takeAll_prune (Journal.openedOn policy disk).catalog policy.keptSegments
  change _ = (Journal.openedOn policy disk).held at listed
  rw [Journal.held_openedOn, nothing, Segment.sorted, List.mergeSort_nil] at listed
  have none := (List.append_eq_nil_iff.mp listed).2
  have statuses := Catalog.map_segment_statuses
    ((Journal.openedOn policy disk).catalog.prune policy.keptSegments).2
  have plan := Catalog.map_segment_scanPlan
    ((Journal.openedOn policy disk).catalog.prune policy.keptSegments).2
  rw [none] at statuses plan
  refine ⟨List.map_eq_nil_iff.mp statuses, fun clock request => ⟨_, rfl, ?_⟩⟩
  simp only [Journal.files, List.map_eq_nil_iff.mp plan, List.map_nil, ite_self]
  rfl

/-- What a clear that succeeds leaves in the directory is there because it could not be removed
before, by that log or by one that was opened earlier. Where nothing is left, a log that is opened
afterwards lists no segment, and a search finds no record. -/
theorem clear_leaves_excused (tidy : IsTidy start)
    (reached : Reached directory start occasions archive)
    (cleared : (archive.journal.clear occasion archive.disk).answer = .ok ()) :
    (∀ segment ∈ found directory (archive.journal.clear occasion archive.disk).disk,
      Excused occasions (archive.journal.clear occasion archive.disk).disk segment.name) ∧
    (found directory (archive.journal.clear occasion archive.disk).disk = [] →
      ∀ (closing opening : Occasion) (policy : Policy) (again : Journal) (disk : Disk),
        policy.fileEnabled = true → policy.directory = directory →
          Journal.openOn policy opening.obstacles
              ((archive.journal.clear occasion archive.disk).journal.close closing
                (archive.journal.clear occasion archive.disk).disk).disk = (.ok again, disk) →
            again.segments = [] ∧ ∀ clock request, ∃ report,
              again.search clock request disk = .ok report ∧
                report.page =
                  { entries := []
                    matched := 0
                    oldest := none
                    skipped := 0
                    truncated := false }) := by
  have accounted := reached.accounted tidy
  refine ⟨fun segment member => accounted.left cleared member, ?_⟩
  intro nothing closing opening policy again disk files same opened
  subst same
  have emptied : (archive.journal.clear occasion archive.disk).journal.buffer.entries = #[] := by
    rw [(clear_ok cleared).2.2.2]
    rfl
  rw [disk_close emptied] at opened
  exact openOn_nothing files nothing opened

theorem reached_loneArchive : Reached plainPolicy.directory (loneDisk []) [{ now := default }]
    (loneArchive []) :=
  .opened rfl rfl (openOn_loneDisk [])

theorem clear_leaves_excused_lone :
    found plainPolicy.directory
      ((loneArchive []).journal.clear { now := default } (loneArchive []).disk).disk = [] := by
  have empty : ((loneArchive []).journal.clear { now := default } (loneArchive []).disk).disk =
      { place := .folder [], nextIdentity := 1 } := by
    decide +kernel
  have cleared : ((loneArchive []).journal.clear { now := default }
      (loneArchive []).disk).answer = .ok () := by
    decide +kernel
  have left := (clear_leaves_excused (tidy_loneDisk []) reached_loneArchive cleared).1
  refine List.eq_nil_iff_forall_not_mem.mpr fun segment member => ?_
  rcases left segment member with ⟨earlier, once, refused⟩ | place
  · rw [List.mem_singleton.mp once] at refused
    contradiction
  · rw [empty] at place
    contradiction

/-- A clear while no file can be removed. -/
def refusedClear : Deed :=
  { occasion := { now := default, obstacles := { refusesRemoval := fun _ => true } }
    operation := .clear }

/-- A clear that could not remove a file forgets the segment. The next one answers that it succeeded,
and the segment is still there. -/
theorem clear_forgets_refused :
    ∃ occasions archive, Reached plainPolicy.directory (loneDisk []) occasions archive ∧
      (archive.journal.clear { now := default } archive.disk).answer = .ok () ∧
        (found plainPolicy.directory
          (archive.journal.clear { now := default } archive.disk).disk).length = 1 := by
  have refused : Reached plainPolicy.directory (loneDisk []) _
      ((loneArchive []).perform refusedClear) :=
    reached_loneArchive.performed nofun
  exact ⟨_, _, refused, by decide +kernel, by decide +kernel⟩

end Archive

end QueryJournal
