import QueryJournal.Proofs.Journal.Refusals

namespace QueryJournal

open QueryJournal.Backward (chunkLength maxLineLength)
open QueryJournal.Segment (IsTidy found)
open QueryJournal.Storage

/-!
Sessions on one directory, told by what a search finds. A record that a flush has reported as
written is found by every search for everything, in the session of the flush and in later ones, if
its line is short enough to be put together. A line that is longer is passed over for ever.
-/

namespace Archive

variable {directory : String} {start disk remaining : Disk} {occasion : Occasion}
  {archive before after : Archive} {journal : Journal} {policy : Policy} {obstacles : Obstacles}
  {deed : Deed} {segment : Segment} {batch : List Entry}

/-!
### Sessions
-/

/-- Sessions on one directory, whether or not they record to files and end with a close. The times
and the numbers of all that is done fit in names. -/
inductive Sessions (directory : String) (start : Disk) : Archive → Prop where
  | first {policy : Policy} {obstacles : Obstacles} {journal : Journal} {disk : Disk}
      (placed : policy.directory = directory)
      (opened : Journal.openOn policy obstacles start = (.ok journal, disk)) :
      Sessions directory start { journal, disk }
  | performed {archive : Archive} {deed : Deed} (earlier : Sessions directory start archive)
      (still : ∀ policy, deed.operation ≠ .reopen policy)
      (awake : archive.journal.closed = true → deed.operation.isUpkeep = false)
      (timely : archive.Timely deed.occasion) : Sessions directory start (archive.perform deed)
  | closed {archive : Archive} {occasion : Occasion} (earlier : Sessions directory start archive)
      (timely : archive.Timely occasion) :
      Sessions directory start (ofOutcome (archive.journal.close occasion archive.disk))
  | reopened {archive : Archive} {policy : Policy} {obstacles : Obstacles} {journal : Journal}
      {disk : Disk} (earlier : Sessions directory start archive)
      (placed : policy.directory = directory)
      (opened : Journal.openOn policy obstacles archive.disk = (.ok journal, disk)) :
      Sessions directory start { journal, disk }

/-- Whoever reads the name of the segment makes the segment of it. -/
def Named (directory : String) (segment : Segment) : Prop :=
  Segment.isCandidate segment.name = true ∧
    Segment.parse? (Path.join directory segment.name) = some segment

theorem Timely.named (timely : archive.Timely occasion) :
    Named archive.journal.policy.directory (archive.upcoming occasion) :=
  ⟨Segment.isCandidate_inDirectory _ _ _, Segment.parse?_inDirectory timely.fits⟩

theorem Named.mem_found (named : Named directory segment) (tidy : IsTidy disk)
    (there : segment.name ∈ disk.names) : segment ∈ found directory disk :=
  (Segment.mem_found tidy).mpr ⟨there, named⟩

/-- What holds of a log in any session. -/
structure Registered (directory : String) (start : Disk) (archive : Archive) : Prop where
  orderly : Orderly start archive
  placed : archive.journal.policy.directory = directory
  distinct : ((found directory archive.disk).map Segment.number).Nodup
  filed : archive.journal.policy.fileEnabled = true → Ordered directory archive
  unfiled : archive.journal.policy.fileEnabled = false → Unfiled archive
  named : ∀ segment ∈ archive.current, Named directory segment

/-- A segment becomes active only as the one that gets the next number. -/
theorem current_perform
    (inactive : archive.journal.writer = none → archive.journal.catalog.active = none)
    (still : ∀ policy, deed.operation ≠ .reopen policy)
    (member : segment ∈ (archive.perform deed).current) :
    segment ∈ archive.current ∨ segment = archive.upcoming deed.occasion := by
  rcases archive.perform_effects still with same | ⟨force, flushed⟩ | ⟨_, rotated⟩ | ⟨_, cleared⟩
  · rw [current, same] at member
    exact .inl member
  · rw [flushed] at member
    exact (enlists_serveFlush inactive deed.occasion force archive.disk).mem_current member
  · rw [rotated] at member
    rcases serveRotation_cases deed.occasion archive.journal archive.disk with same | ⟨_, retires⟩
    · rw [same] at member
      exact (enlists_serveFlush inactive deed.occasion true archive.disk).mem_current member
    · rw [retires.current_eq] at member
      contradiction
  · rw [current, cleared] at member
    cases member

theorem current_close (member : segment ∈
      (ofOutcome (archive.journal.close occasion archive.disk)).current) :
    segment ∈ archive.current := by
  rw [Journal.close] at member
  split at member
  · exact member
  · rw [ofOutcome, current_release] at member
    contradiction

/-- A log that is opened is registered, whatever log was on the directory before. -/
theorem Registered.openOn (known : start.nextIdentity ≤ disk.nextIdentity)
    (origins : ∀ name identity content, disk.find? name = some (.file identity content) →
      identity < disk.nextIdentity ∧ Origin start name identity content)
    (tidy : IsTidy disk) (single : disk.names.Nodup)
    (distinct : ((found directory disk).map Segment.number).Nodup)
    (placed : policy.directory = directory)
    (opened : Journal.openOn policy obstacles disk = (.ok journal, remaining)) :
    Registered directory start { journal, disk := remaining } := by
  have orderly : Orderly start { journal, disk := remaining } :=
    .openOn known origins tidy single opened
  cases files : policy.fileEnabled with
  | true =>
      let occasion : Occasion := { now := default, obstacles }
      have opened : Journal.openOn policy occasion.obstacles disk = (.ok journal, remaining) :=
        opened
      have consistent : Consistent directory start { journal, disk := remaining } :=
        .openOn tidy distinct known origins files placed opened
      have same := (openOn_ok files opened).2.1
      have policy : journal.policy = policy := by rw [same]; rfl
      have inactive : journal.catalog.active = none := by
        rw [same]
        exact Catalog.active_prune _ _
      refine
        { orderly
          placed := policy ▸ placed
          distinct := consistent.ordered.distinct
          filed := fun _ => consistent.ordered
          unfiled := fun off => ?_
          named := fun segment member => ?_ }
      · rw [policy, files] at off
        contradiction
      · rw [current, inactive] at member
        contradiction
  | false =>
      obtain ⟨rfl, rfl, held, _⟩ := openOn_unfiled files opened
      have unfiled : Unfiled { journal, disk := remaining } := ⟨files, held⟩
      refine
        { orderly
          placed
          distinct
          filed := fun on => absurd (files.symm.trans on) Bool.false_ne_true
          unfiled := fun _ => unfiled
          named := fun segment member => ?_ }
      rw [unfiled.current] at member
      contradiction

theorem Registered.perform (registered : Registered directory start archive)
    (still : ∀ policy, deed.operation ≠ .reopen policy)
    (awake : archive.journal.closed = true → deed.operation.isUpkeep = false)
    (timely : archive.Timely deed.occasion) :
    Registered directory start (archive.perform deed) := by
  obtain ⟨orderly, placed, distinct, filed, unfiled, named⟩ := registered
  have policy := (sameSettings_perform archive still).1
  have ordered : archive.journal.policy.fileEnabled = true →
      Ordered directory (archive.perform deed) := fun files =>
    (Consistent.perform ⟨filed files, orderly.coherent⟩ still).ordered
  refine
    { orderly := orderly.next (.performed archive still awake)
      placed := policy ▸ placed
      distinct := ?_
      filed := policy ▸ ordered
      unfiled := fun off => ((unfiled (policy ▸ off)).perform still).1
      named := fun segment member => ?_ }
  · cases files : archive.journal.policy.fileEnabled with
    | true => exact (ordered files).distinct
    | false => rwa [((unfiled files).perform still).2]
  · rcases current_perform orderly.coherent.inactive still member with earlier | rfl
    · exact named segment earlier
    · exact placed ▸ timely.named

theorem Registered.close (registered : Registered directory start archive) (occasion : Occasion) :
    Registered directory start (ofOutcome (archive.journal.close occasion archive.disk)) := by
  obtain ⟨orderly, placed, distinct, filed, unfiled, named⟩ := registered
  have policy := policy_close occasion archive.journal archive.disk
  have ordered : archive.journal.policy.fileEnabled = true →
      Ordered directory (ofOutcome (archive.journal.close occasion archive.disk)) := by
    intro files
    have consistent : Consistent directory start archive := ⟨filed files, orderly.coherent⟩
    exact ((moves_close _ _ _).preserve .move consistent).ordered
  refine
    { orderly := orderly.next (.closed archive occasion)
      placed := policy.symm ▸ placed
      distinct := ?_
      filed := fun files => ordered (policy ▸ files)
      unfiled := fun off => ((unfiled (policy ▸ off)).close occasion).1
      named := fun segment member => named segment (current_close member) }
  cases files : archive.journal.policy.fileEnabled with
  | true => exact (ordered files).distinct
  | false =>
      rw [ofOutcome, ((unfiled files).close occasion).2]
      exact distinct

theorem Sessions.registered (tidy : IsTidy start) (single : start.names.Nodup)
    (numbered : start.Numbered) (distinct : ((found directory start).map Segment.number).Nodup)
    (sessions : Sessions directory start archive) : Registered directory start archive := by
  induction sessions with
  | first placed opened =>
      exact .openOn (Nat.le_refl _) (origin_start numbered) tidy single distinct placed opened
  | performed _ still awake timely ih => exact ih.perform still awake timely
  | closed _ _ ih => exact ih.close _
  | reopened _ placed opened ih =>
      obtain ⟨coherent, stocked, _⟩ := ih.orderly
      exact .openOn coherent.later coherent.files stocked.tidy stocked.single ih.distinct placed
        opened

/-!
### From a flush on
-/

/-- What comes after a flush, while a segment is not cleared and not given up for newer ones. -/
inductive Since (directory : String) (segment : Segment) (first : Archive) : Archive → Prop where
  | refl : Since directory segment first first
  | performed {archive : Archive} {deed : Deed} (earlier : Since directory segment first archive)
      (still : ∀ policy, deed.operation ≠ .reopen policy)
      (awake : archive.journal.closed = true → deed.operation.isUpkeep = false)
      (spared : ¬ archive.Gone deed segment) :
      Since directory segment first (archive.perform deed)
  | closed {archive : Archive} {occasion : Occasion}
      (earlier : Since directory segment first archive) :
      Since directory segment first (ofOutcome (archive.journal.close occasion archive.disk))
  | reopened {archive : Archive} {policy : Policy} {obstacles : Obstacles} {journal : Journal}
      {disk : Disk} (earlier : Since directory segment first archive)
      (placed : policy.directory = directory)
      (opened : Journal.openOn policy obstacles archive.disk = (.ok journal, disk))
      (spared : ¬ Outdated policy journal segment) :
      Since directory segment first { journal, disk }

/-- A batch lies in a segment, and a log that records to files lists it. -/
structure Safe (start : Disk) (segment : Segment) (batch : List Entry) (archive : Archive) :
    Prop where
  orderly : Orderly start archive
  lies : Lies segment batch archive.disk
  filed : archive.journal.policy.fileEnabled = true → segment ∈ archive.journal.held
  unfiled : archive.journal.policy.fileEnabled = false → Unfiled archive

theorem Safe.perform (safe : Safe start segment batch archive)
    (still : ∀ policy, deed.operation ≠ .reopen policy)
    (awake : archive.journal.closed = true → deed.operation.isUpkeep = false)
    (spared : ¬ archive.Gone deed segment) : Safe start segment batch (archive.perform deed) := by
  obtain ⟨orderly, lies, filed, unfiled⟩ := safe
  have policy := (sameSettings_perform archive still).1
  have next := orderly.next (.performed archive still awake)
  have listed : archive.journal.policy.fileEnabled = true →
      segment ∈ (archive.perform deed).journal.held :=
    fun files => mem_held_perform orderly still (filed files) spared
  refine
    { orderly := next
      lies := ?_
      filed := policy ▸ listed
      unfiled := fun off => ((unfiled (policy ▸ off)).perform still).1 }
  cases files : archive.journal.policy.fileEnabled with
  | true =>
      exact (orderly.performed still).lies (filed files) (next.stocked.listed _ (listed files)) lies
  | false => rwa [((unfiled files).perform still).2]

theorem Safe.close (safe : Safe start segment batch archive) (occasion : Occasion) :
    Safe start segment batch (ofOutcome (archive.journal.close occasion archive.disk)) := by
  obtain ⟨orderly, lies, filed, unfiled⟩ := safe
  have policy := policy_close occasion archive.journal archive.disk
  have next := orderly.next (.closed archive occasion)
  have listed : archive.journal.policy.fileEnabled = true →
      segment ∈ (archive.journal.close occasion archive.disk).journal.held :=
    fun files => mem_held_close orderly.coherent (filed files) occasion
  refine
    { orderly := next
      lies := ?_
      filed := fun files => listed (policy ▸ files)
      unfiled := fun off => ((unfiled (policy ▸ off)).close occasion).1 }
  cases files : archive.journal.policy.fileEnabled with
  | true =>
      have closing : AppendOnly occasion archive _ _ fun _ => False := orderly.closing occasion
      exact closing.lies (filed files) (next.stocked.listed _ (listed files)) lies
  | false =>
      rw [ofOutcome, ((unfiled files).close occasion).2]
      exact lies

theorem Lies.mem_names (lies : Lies segment batch disk) : segment.name ∈ disk.names :=
  let ⟨_, _, _, placed⟩ := lies
  Disk.mem_names_iff.mpr ⟨_, placed⟩

/-- Whoever opens the directory again lists the segment, unless it is outdated. -/
theorem Safe.openOn (safe : Safe start segment batch archive) (named : Named directory segment)
    (placed : policy.directory = directory)
    (opened : Journal.openOn policy obstacles archive.disk = (.ok journal, disk))
    (spared : ¬ Outdated policy journal segment) :
    Safe start segment batch { journal, disk } := by
  obtain ⟨⟨coherent, stocked, _⟩, lies, _, _⟩ := safe
  have orderly : Orderly start { journal, disk } :=
    .openOn coherent.later coherent.files stocked.tidy stocked.single opened
  subst placed
  cases files : policy.fileEnabled with
  | true =>
      have apart : ((Journal.openedOn policy archive.disk).held.map Segment.name).Nodup :=
        (Stocked.openedOn stocked.tidy stocked.single).apart
      have known : segment ∈ (Journal.openedOn policy archive.disk).held :=
        Journal.mem_held_openedOn.mpr (named.mem_found stocked.tidy lies.mem_names)
      obtain ⟨_, rfl, rfl⟩ := openOn_ok files opened
      rw [Journal.held, ← Catalog.takeAll_prune _ policy.keptSegments, List.mem_append] at known
      have listed := known.resolve_left fun given =>
        spared (outdated_of_prune apart rfl rfl (List.mem_map_of_mem given))
      exact
        { orderly
          lies := lies.removeAll (orderly.stocked.listed _ listed)
          filed := fun _ => listed
          unfiled := fun off => absurd (off.symm.trans files) Bool.false_ne_true }
  | false =>
      obtain ⟨rfl, rfl, held, _⟩ := openOn_unfiled files opened
      exact
        { orderly
          lies
          filed := fun on => absurd (files.symm.trans on) Bool.false_ne_true
          unfiled := fun _ => ⟨files, held⟩ }

theorem Since.safe (since : Since directory segment before archive)
    (named : Named directory segment) (safe : Safe start segment batch before) :
    Safe start segment batch archive := by
  induction since with
  | refl => exact safe
  | performed _ still awake spared ih => exact ih.perform still awake spared
  | closed _ ih => exact ih.close _
  | reopened _ placed opened spared ih => exact ih.openOn named placed opened spared

/-!
### What a flush leaves behind
-/

/-- A batch has just been written. Nothing else waits to be, and its segment is the newest one. -/
structure Landed (directory : String) (start : Disk) (segment : Segment) (batch : List Entry)
    (archive : Archive) : Prop where
  filed : archive.journal.policy.fileEnabled = true
  named : Named directory segment
  listed : segment ∈ archive.journal.held
  lies : Lies segment batch archive.disk
  empty : archive.journal.buffer.entries = #[]
  foremost : ∀ other ∈ found directory archive.disk,
    other.name ≠ segment.name → other.number < segment.number

/-- What a flush reports has landed, in the segment that is active then. -/
theorem landed_serveFlush {force : Bool} (consistent : Consistent directory start { journal, disk })
    (named : ∀ segment ∈ current { journal, disk }, Named directory segment)
    (timely : Timely { journal, disk } occasion)
    (some : reported { journal, disk } (journal.serveFlush occasion force disk).answer ≠ []) :
    ∃ segment, current (ofOutcome (journal.serveFlush occasion force disk)) = [segment] ∧
      Landed directory start segment
        (reported { journal, disk } (journal.serveFlush occasion force disk).answer)
        (ofOutcome (journal.serveFlush occasion force disk)) := by
  obtain ⟨files, empty, segment, active, lies⟩ := lies_serveFlush consistent.coherent some
  have enlists := enlists_serveFlush consistent.coherent.inactive occasion force disk
  have flushed := (moves_serveFlush occasion force journal disk).preserve .move consistent
  have member : segment ∈ current (ofOutcome (journal.serveFlush occasion force disk)) := by
    rw [active]
    exact List.mem_singleton_self _
  refine ⟨segment, active, ?_⟩
  refine
    { filed := ?_
      named := ?_
      listed := List.mem_append_right _ member
      lies
      empty
      foremost := ?_ }
  · have policy := (sameSettings_serveFlush occasion force journal disk).1
    exact policy.symm ▸ files
  · rcases enlists.mem_current member with earlier | rfl
    · exact named segment earlier
    · exact consistent.ordered.placed ▸ timely.named
  · rw [current, Option.mem_toList, Option.map_eq_some_iff] at member
    obtain ⟨opened, present, rfl⟩ := member
    exact flushed.ordered.newest opened present

/-- A batch stays the newest one while files only go, its own excepted. -/
theorem Landed.fewer (landed : Landed directory start segment batch before)
    (tidy : IsTidy before.disk) (policy : after.journal.policy = before.journal.policy)
    (buffer : after.journal.buffer = before.journal.buffer) (listed : segment ∈ after.journal.held)
    (names : after.disk.names.Sublist before.disk.names) (lies : Lies segment batch after.disk) :
    Landed directory start segment batch after :=
  { filed := policy ▸ landed.filed
    named := landed.named
    listed
    lies
    empty := buffer ▸ landed.empty
    foremost := fun other member =>
      landed.foremost other (Segment.mem_found_of_sublist tidy names member) }

theorem Landed.retire (landed : Landed directory start segment batch before)
    (tidy : IsTidy before.disk) (active : before.current = [segment])
    (positive : before.journal.policy.keptSegments ≠ some 0)
    (retires : Retires occasion before after) (stocked : Stocked after) :
    Landed directory start segment batch after := by
  have listed := retires.mem_held_of_current active positive
  have there := stocked.listed segment listed
  rw [retires.disk] at there
  refine landed.fewer tidy ?_ ?_ listed ?_ ?_
  · rw [retires.journal]
  · rw [retires.journal]
  · rw [retires.disk]
    exact Indexed.names_removeAll _ _ _
  · rw [retires.disk]
    exact landed.lies.removeAll there

theorem Registered.landed_serveRotation (registered : Registered directory start { journal, disk })
    (timely : Timely { journal, disk } occasion) (positive : journal.policy.keptSegments ≠ some 0)
    (some : reported { journal, disk } (journal.serveFlush occasion true disk).answer ≠ []) :
    ∃ segment, Landed directory start segment
      (reported { journal, disk } (journal.serveFlush occasion true disk).answer)
      (ofOutcome (journal.serveRotation occasion disk)) := by
  obtain ⟨⟨coherent, stocked, _⟩, _, _, filed, _, named⟩ := registered
  have files := (lies_serveFlush coherent some).1
  obtain ⟨segment, active, landed⟩ := landed_serveFlush ⟨filed files, coherent⟩ named timely some
  have flushed := (moves_serveFlush occasion true journal disk).coherent_stocked coherent stocked
  have rotated := (moves_serveRotation occasion journal disk).coherent_stocked coherent stocked
  refine ⟨segment, ?_⟩
  rcases serveRotation_cases occasion journal disk with same | ⟨_, retires⟩
  · exact same.symm ▸ landed
  · refine landed.retire flushed.2.tidy active ?_ retires rotated.2
    have policy := (sameSettings_serveFlush occasion true journal disk).1
    exact policy.symm ▸ positive

/-- What a deed reports has landed. -/
theorem Registered.landed (registered : Registered directory start archive)
    (still : ∀ policy, deed.operation ≠ .reopen policy) (timely : archive.Timely deed.occasion)
    (positive : deed.operation.isRotation = true → archive.journal.policy.keptSegments ≠ some 0)
    (some : archive.reports deed ≠ []) :
    ∃ segment, Landed directory start segment (archive.reports deed) (archive.perform deed) := by
  obtain ⟨journal, disk⟩ := archive
  obtain ⟨occasion, operation⟩ := deed
  have flushed : ∀ force,
      reported { journal, disk } (journal.serveFlush occasion force disk).answer ≠ [] →
        ∃ segment, Landed directory start segment
          (reported { journal, disk } (journal.serveFlush occasion force disk).answer)
          (ofOutcome (journal.serveFlush occasion force disk)) := by
    intro force some
    have files := (lies_serveFlush registered.orderly.coherent some).1
    obtain ⟨segment, _, landed⟩ := landed_serveFlush
      ⟨registered.filed files, registered.orderly.coherent⟩ registered.named timely some
    exact ⟨segment, landed⟩
  cases operation with
  | add | clear => exact absurd rfl some
  | flush force =>
      simp only [Archive.perform, reports, Journal.flush, Journal.whileOpen] at some ⊢
      split at some
      · exact absurd rfl some
      · rename_i going
        rw [if_neg going]
        exact flushed force some
  | rotate =>
      simp only [Archive.perform, reports, Journal.flush, Journal.rotate,
        Journal.whileOpen] at some ⊢
      split at some
      · exact absurd rfl some
      · rename_i going
        rw [if_neg going, if_neg going]
        exact registered.landed_serveRotation timely (positive rfl) some
  | flushBehind => exact flushed false some
  | rotateBehind => exact registered.landed_serveRotation timely (positive rfl) some
  | reopen policy => exact absurd rfl (still policy)

/-- What is written when a log closes has landed. -/
theorem Registered.landed_close (registered : Registered directory start archive)
    (timely : archive.Timely occasion) (some : archive.lastReports occasion ≠ []) :
    ∃ segment, Landed directory start segment (archive.lastReports occasion)
      (ofOutcome (archive.journal.close occasion archive.disk)) := by
  obtain ⟨⟨coherent, stocked, _⟩, _, _, filed, _, named⟩ := registered
  obtain ⟨journal, disk⟩ := archive
  simp only [lastReports, Journal.close] at some ⊢
  split at some
  · exact absurd rfl some
  · rename_i going
    rw [if_neg going, if_neg going]
    have closing : Move occasion { journal, disk }
        { journal := { journal with closed := true }, disk } := .remember rfl rfl rfl
    have shut := coherent.move closing
    have files : journal.policy.fileEnabled = true := (lies_serveFlush shut some).1
    have consistent : Consistent directory start
        { journal := { journal with closed := true }, disk } :=
      Consistent.move ⟨filed files, coherent⟩ closing
    obtain ⟨segment, _, landed⟩ := landed_serveFlush consistent named
      ⟨timely.year, timely.number⟩ some
    have flushed := (moves_serveFlush occasion true { journal with closed := true }
      disk).coherent_stocked shut (stocked.move coherent closing)
    have listed := landed.listed
    rw [Journal.held, ← Catalog.takeAll_closeActive] at listed
    exact ⟨segment, landed.fewer flushed.2.tidy rfl rfl listed (List.Sublist.refl _) landed.lies⟩

/-- After the first flush of a log a search finds what it reported, and nothing else. -/
theorem Registered.recovers_first_flush {force : Bool}
    (registered : Registered directory start archive) (going : archive.journal.closed = false)
    (unused : archive.journal.held = []) (empty : archive.disk.names = [])
    (timely : archive.Timely occasion)
    (some : archive.reports { occasion, operation := .flush force } ≠ []) :
    Entry.Recovers (archive.reports { occasion, operation := .flush force }).reverse
      (archive.perform { occasion, operation := .flush force }).readable := by
  let deed : Deed := { occasion, operation := .flush force }
  have still : ∀ policy, deed.operation ≠ .reopen policy := by simp [deed]
  obtain ⟨segment, landed⟩ :=
    registered.landed still timely (by simp [deed, Operation.isRotation]) some
  have next := registered.orderly.next
    (.performed archive still fun closed => absurd (going.symm.trans closed) Bool.false_ne_true)
  have flushed : archive.perform deed =
      ofOutcome (archive.journal.serveFlush occasion force archive.disk) :=
    congrArg ofOutcome (whileOpen_going going _ _)
  have closed : (archive.perform deed).journal.catalog.closed = [] := by
    have enlists :=
      enlists_serveFlush registered.orderly.coherent.inactive occasion force archive.disk
    rw [flushed, enlists.closed]
    exact (List.append_eq_nil_iff.mp unused).1
  have alone : (archive.perform deed).journal.held = [segment] := by
    have listed := landed.listed
    rw [held_eq, closed, List.nil_append] at listed ⊢
    rw [current, Option.mem_toList] at listed
    rw [current, listed, Option.toList_some]
  have free : archive.disk.find? segment.name = none := by
    rw [Option.eq_none_iff_forall_ne_some]
    intro node there
    have member := Disk.mem_names_iff.mpr ⟨node, there⟩
    rw [empty] at member
    contradiction
  obtain ⟨_, _, _, there⟩ := landed.lies
  have placed := ((registered.orderly.performed still).fresh segment.name free).resolve_left
    fun none => by simp [none] at there
  exact next.coherent.recovers_readable landed.filed landed.empty alone placed.2.2

/-!
### Searches after a flush
-/

/-- Every search from here on finds a batch in a segment. -/
structure Secures (directory : String) (segment : Segment) (batch : List Entry) (first : Archive) :
    Prop where
  /-- A log that records to files and is open finds it. -/
  finds : ∀ archive, Since directory segment first archive → archive.journal.closed = false →
    archive.journal.policy.fileEnabled = true → archive.Finds batch
  /-- The log can be closed and opened again, and the segment is not the one that goes. -/
  reopens : ∀ occasion policy, policy.directory = directory → policy.fileEnabled = true →
    policy.keptSegments ≠ some 0 → ∃ journal disk,
      Journal.openOn policy occasion.obstacles
          (first.journal.close occasion first.disk).disk = (.ok journal, disk) ∧
        Since directory segment first { journal, disk }

/-- Who opens the directory next and keeps any segment keeps the newest one. -/
theorem Landed.spared (landed : Landed directory start segment batch archive)
    (stocked : Stocked archive) (placed : policy.directory = directory)
    (files : policy.fileEnabled = true) (positive : policy.keptSegments ≠ some 0)
    (opened : Journal.openOn policy obstacles archive.disk = (.ok journal, disk)) :
    ¬ Outdated policy journal segment := by
  rintro ⟨missing, full⟩
  subst placed
  obtain ⟨_, rfl, -⟩ := openOn_ok files opened
  have whole := Catalog.takeAll_prune (Journal.openedOn policy archive.disk).catalog
    policy.keptSegments
  have known := Journal.mem_held_openedOn.mpr
    (landed.named.mem_found stocked.tidy landed.lies.mem_names)
  have ascending := Segment.pairwise_sorted (found policy.directory archive.disk)
  have apart : ((Journal.openedOn policy archive.disk).held.map Segment.name).Nodup :=
    (Stocked.openedOn stocked.tidy stocked.single).apart
  rw [← Journal.held_openedOn, Journal.held, ← whole, List.pairwise_append] at ascending
  rw [Journal.held, ← whole, List.map_append, List.nodup_append] at apart
  rw [Journal.held, ← whole, List.mem_append] at known
  have given := known.resolve_right missing
  -- As many segments are kept as may be, so there is one, and it is newer than what is given up.
  obtain ⟨other, there⟩ := List.exists_mem_of_length_pos
    (Nat.pos_of_ne_zero fun none => positive (none ▸ full))
  have kept : other ∈ Journal.held { Journal.openedOn policy archive.disk with
      catalog := ((Journal.openedOn policy archive.disk).catalog.prune policy.keptSegments).2 } :=
    List.mem_append_left _ there
  have member : other ∈ found policy.directory archive.disk := by
    rw [← Journal.mem_held_openedOn, Journal.held, ← whole]
    exact List.mem_append_right _ kept
  have different : other.name ≠ segment.name := fun same =>
    apart.2.2 _ (List.mem_map_of_mem given) _ (List.mem_map_of_mem kept) same.symm
  exact Nat.lt_irrefl _
    (Nat.lt_of_lt_of_le (landed.foremost other member different)
      (ascending.2.2 segment given other kept))

theorem Landed.secures (landed : Landed directory start segment batch archive)
    (orderly : Orderly start archive) : Secures directory segment batch archive := by
  have safe : Safe start segment batch archive :=
    { orderly
      lies := landed.lies
      filed := fun _ => landed.listed
      unfiled := fun off => absurd (off.symm.trans landed.filed) Bool.false_ne_true }
  refine
    { finds := fun later since going files => ?_
      reopens := fun occasion policy placed files positive => ?_ }
  · have kept := since.safe landed.named safe
    exact kept.orderly.coherent.finds going files (kept.filed files) kept.lies
  · have same : (archive.journal.close occasion archive.disk).disk = archive.disk :=
      disk_close landed.empty
    have usable := Disk.isUsable_of_mem_names landed.lies.mem_names
    obtain ⟨journal, disk, opened⟩ : ∃ journal disk,
        Journal.openOn policy occasion.obstacles archive.disk = (.ok journal, disk) :=
      ⟨_, _, openOn_pruned files usable occasion.obstacles⟩
    have spared := landed.spared orderly.stocked placed files positive opened
    rw [← same] at opened
    have closed : Since directory segment archive
        (ofOutcome (archive.journal.close occasion archive.disk)) := .closed .refl
    exact ⟨journal, disk, opened, .reopened closed placed opened spared⟩

/-- What a flush reports as written is found by every search for everything from then on, in the
order in which it came, as far as lines are not too long to be put together. So it is while the log
is open and in all later sessions on the directory that record to files, until everything is cleared
or newer segments take the place of the one that was written to. This holds of flushes on request,
of those behind the scenes, and of the last one when a log closes. What is too long by a chunk is
not found. -/
theorem reported_records_are_found (tidy : IsTidy start) (single : start.names.Nodup)
    (numbered : start.Numbered) (distinct : ((found directory start).map Segment.number).Nodup)
    (sessions : Sessions directory start archive) :
    (∀ deed, (∀ policy, deed.operation ≠ .reopen policy) →
      (archive.journal.closed = true → deed.operation.isUpkeep = false) →
        archive.Timely deed.occasion →
          (deed.operation.isRotation = true → archive.journal.policy.keptSegments ≠ some 0) →
            archive.reports deed ≠ [] →
              ∃ segment, Secures directory segment (archive.reports deed) (archive.perform deed)) ∧
    ∀ occasion, archive.Timely occasion → archive.lastReports occasion ≠ [] →
      ∃ segment, Secures directory segment (archive.lastReports occasion)
        (ofOutcome (archive.journal.close occasion archive.disk)) := by
  have registered := sessions.registered tidy single numbered distinct
  refine ⟨fun deed still awake timely positive some => ?_, fun occasion timely some => ?_⟩
  · obtain ⟨segment, landed⟩ := registered.landed still timely positive some
    exact ⟨segment, landed.secures (registered.orderly.next (.performed archive still awake))⟩
  · obtain ⟨segment, landed⟩ := registered.landed_close timely some
    exact ⟨segment, landed.secures (registered.orderly.next (.closed archive occasion))⟩

/-!
### A record that is found, and one that is not
-/

/-- A fresh log with one record that waits to be written. -/
def waiting (entry : Entry) : Archive :=
  { journal :=
      { (Pipeline.fresh plainPolicy).journal with
        buffer := ((Pipeline.fresh plainPolicy).journal.buffer.append entry).2 }
    disk := {} }

/-- A fresh log to which a question has come, of a client that names itself or does not. -/
def asked (clientId : Option String) : Archive :=
  perform { journal := (Pipeline.fresh plainPolicy).journal, disk := {} }
    { occasion := { now := default }
      operation := .add { question := default, client := default, clientId } }

theorem asked_eq (clientId : Option String) : ∃ entry : Entry,
    entry.clientId = clientId ∧ asked clientId = waiting entry :=
  ⟨_, rfl, rfl⟩

/-- A directory that is not there yet is a sound one to start from. -/
theorem sound_missing (directory : String) :
    IsTidy {} ∧ ({} : Disk).names.Nodup ∧ ({} : Disk).Numbered ∧
      ((found directory {}).map Segment.number).Nodup := by
  simp [IsTidy, Disk.Numbered, Disk.find?, found, Segment.discover, Segment.sorted, Disk.names,
    Disk.folder?, Folder.names]

theorem sessions_asked (clientId : Option String) :
    Sessions plainPolicy.directory {} (asked clientId) := by
  have timely : Timely { journal := (Pipeline.fresh plainPolicy).journal, disk := {} }
      { now := default } := { year := by decide, number := by decide }
  exact .performed (.first rfl openOn_missing) (by simp) (by simp [Operation.isUpkeep]) timely

def plainFlush : Deed :=
  { occasion := { now := default }, operation := .flush true }

theorem timely_waiting (entry : Entry) : (waiting entry).Timely plainFlush.occasion :=
  { year := by decide, number := show 1 < _ by decide }

/-- A record of any length is written, and the flush says so. -/
theorem answer_flush_waiting (entry : Entry) :
    ((waiting entry).journal.flush plainFlush.occasion true (waiting entry).disk).answer =
      .ok 1 := by
  have syncsLast : SyncsLast (waiting entry) := .of_none rfl
  rw [answer_flush syncsLast rfl rfl]
  rfl

theorem reports_waiting (entry : Entry) : (waiting entry).reports plainFlush = [entry] := by
  have answer := answer_flush_waiting entry
  have buffered : (waiting entry).journal.buffer.entries.toList = [entry] := rfl
  simp only [plainFlush] at answer
  simp only [reports, plainFlush, answer, reported, buffered, List.take_succ_cons, List.take_zero]

theorem registered_asked (clientId : Option String) :
    Registered plainPolicy.directory {} (asked clientId) :=
  have ⟨tidy, single, numbered, distinct⟩ := sound_missing plainPolicy.directory
  (sessions_asked clientId).registered tidy single numbered distinct

/-- The record is found, in the session in which it was written and in the next one. -/
theorem reported_records_are_found_asked :
    ∃ entry, (asked none).reports plainFlush = [entry] ∧ entry.isLegible = true ∧
      ((asked none).perform plainFlush).Finds [entry] ∧
        ∃ journal disk, Journal.openOn plainPolicy .none
            (((asked none).perform plainFlush).journal.close plainFlush.occasion
              ((asked none).perform plainFlush).disk).disk = (.ok journal, disk) ∧
          Finds { journal, disk } [entry] := by
  obtain ⟨entry, same, legible⟩ : ∃ entry : Entry,
      asked none = waiting entry ∧ entry.isLegible = true := ⟨_, rfl, by decide +kernel⟩
  have reported : (asked none).reports plainFlush = [entry] := same ▸ reports_waiting entry
  have still : ∀ policy, plainFlush.operation ≠ .reopen policy := by simp [plainFlush]
  obtain ⟨tidy, single, numbered, distinct⟩ := sound_missing plainPolicy.directory
  obtain ⟨segment, secures⟩ := (reported_records_are_found tidy single numbered distinct
    (sessions_asked none)).1 plainFlush still (fun _ => rfl) (same ▸ timely_waiting entry)
      (by simp [plainFlush, Operation.isRotation]) (by simp [reported])
  rw [reported] at secures
  have settings := sameSettings_perform (asked none) still
  obtain ⟨journal, disk, opened, since⟩ :=
    secures.reopens plainFlush.occasion plainPolicy rfl rfl (by decide)
  have again : journal.closed = false ∧ journal.policy = plainPolicy := by
    obtain ⟨_, rfl, _⟩ := openOn_ok rfl opened
    exact ⟨rfl, rfl⟩
  exact ⟨entry, reported, legible, secures.finds _ .refl settings.2 (settings.1 ▸ rfl),
    journal, disk, opened, secures.finds _ since again.1 (again.2 ▸ rfl)⟩

/-- The name of a client that is longer than any line that is read. -/
def wordy : String :=
  String.ofList (List.replicate (maxLineLength + chunkLength) 'x')

/-- The record of a client with such a name is written, and no search finds it. -/
theorem overlong_record_is_not_found :
    ((asked (some wordy)).journal.flush plainFlush.occasion true
        (asked (some wordy)).disk).answer = .ok 1 ∧
      ∃ report, ((asked (some wordy)).perform plainFlush).journal.search (fun _ => 0)
          { scanCap := 0 } ((asked (some wordy)).perform plainFlush).disk = .ok report ∧
        report.page.entries = [] := by
  obtain ⟨entry, client, same⟩ := asked_eq (some wordy)
  have registered := registered_asked (some wordy)
  rw [same] at registered ⊢
  refine ⟨answer_flush_waiting entry, ?_⟩
  have reported := reports_waiting entry
  have going : ((waiting entry).perform plainFlush).journal.closed = false :=
    (sameSettings_perform (waiting entry) (by simp [plainFlush])).2
  have unread : ¬ entry.mayBeRead = true := by
    have length := Entry.length_clientId_le client
    rw [wordy, String.length_ofList, List.length_replicate] at length
    rw [Entry.mayBeRead, decide_eq_true_eq, Nat.not_lt]
    exact length
  have none : ((waiting entry).perform plainFlush).readable = [] := by
    have recovers := (registered.recovers_first_flush rfl rfl rfl (timely_waiting entry)
      (reported ▸ List.cons_ne_nil _ _)).2
    change List.Sublist _ (((waiting entry).reports plainFlush).reverse.filter _) at recovers
    rw [reported, List.reverse_singleton, List.filter_cons_of_neg unread, List.filter_nil,
      List.sublist_nil] at recovers
    exact recovers
  obtain ⟨report, answered, entries⟩ := search_readable going (fun _ => 0)
    (⟨rfl, rfl, rfl, rfl, rfl, by rw [none]; exact Nat.zero_le _⟩ :
      ({ scanCap := 0 } : Search.Request).Unbounded _)
  exact ⟨report, answered, entries.trans none⟩

end Archive

end QueryJournal
