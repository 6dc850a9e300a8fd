import QueryJournal.Proofs.Journal.Chronicle

namespace QueryJournal.Archive

open QueryJournal.Segment (IsTidy found)
open QueryJournal.Storage

/-!
What a rotation or an opening removes is older than all that stays, and never the active segment. So
over all sessions on a directory a log is left with the newest segments, and the directory with the
files of these.
-/

variable {kept : Nat} {directory : String} {start disk : Disk} {history : List Segment}
  {occasion : Occasion} {before after : Archive} {journal : Journal} {obstacles : Obstacles}

/-- What a rotation removes is older than all that stays, and never the active segment. One that
closes no segment removes nothing. -/
structure Spares (occasion : Occasion) (before after : Archive) : Prop where
  active : ∀ segment ∈ before.current,
    segment ∈ after.journal.held ∧ segment.name ∈ after.disk.names
  older : ∀ name ∈ before.disk.names, name ∉ after.disk.names →
    ∃ segment ∈ before.journal.catalog.closed, segment.name = name ∧
      ∀ other ∈ after.journal.held, segment.number < other.number
  idle : before.retiring occasion = [] → ∀ name ∈ before.disk.names, name ∈ after.disk.names

/-- What an opening removes is older than all that stays. One that fails removes nothing. -/
def OpensSparing (kept : Nat) (directory : String) (disk : Disk) : Prop :=
  ∀ policy obstacles, policy.directory = directory → policy.keptSegments = some kept →
    (∀ failure after, Journal.openOn policy obstacles disk = (.error failure, after) →
      after = disk) ∧
    ∀ journal after, Journal.openOn policy obstacles disk = (.ok journal, after) →
      ∀ name ∈ disk.names, name ∉ after.names →
        ∃ segment ∈ found directory disk, segment.name = name ∧
          ∀ other ∈ journal.held, segment.number < other.number

theorem mem_of_removed {segments : List Segment} {name : String} (before : name ∈ disk.names)
    (after : name ∉ (Journal.removeAll obstacles disk segments).2.names) :
    name ∈ segments.map Segment.name := by
  by_contra other
  rw [Disk.mem_names_iff, Journal.find?_removeAll_ne other, ← Disk.mem_names_iff] at after
  exact after before

/-- A rotation that removes nothing spares everything. -/
theorem Stocked.spares (stocked : Stocked after)
    (names : ∀ name ∈ before.disk.names, name ∈ after.disk.names)
    (carried : ∀ segment ∈ before.current, segment ∈ after.journal.held) :
    Spares occasion before after :=
  { active := fun segment member =>
      ⟨carried segment member, stocked.listed segment (carried segment member)⟩
    older := fun name member gone => absurd (names name member) gone
    idle := fun _ => names }

/-- Of the segments that are closed after a rotation the last one was active, and it stays. -/
theorem Stocked.spares_retired {middle : Journal} {newest : ActiveSegment}
    (stocked : Stocked after) (positive : 0 < kept)
    (ascending : middle.held.Pairwise fun older newer => older.number < newer.number)
    (active : middle.catalog.active = some newest)
    (closed : middle.catalog.closed = before.journal.catalog.closed)
    (wider : ∀ name ∈ before.disk.names, name ∈ disk.names)
    (carried : ∀ segment ∈ before.current, segment = newest.segment)
    (catalog : after.journal.catalog = (middle.catalog.closeActive.2.prune (some kept)).2)
    (removed : after.disk = (Journal.removeAll obstacles disk
      (middle.catalog.closeActive.2.prune (some kept)).1).2)
    (busy : before.retiring occasion ≠ []) : Spares occasion before after := by
  have whole : middle.catalog.closeActive.2.closed =
      before.journal.catalog.closed ++ [newest.segment] := by
    simp only [Catalog.closeActive, active, closed]
  -- At least one segment is kept, so what goes was closed before the active one was.
  have bound : before.journal.catalog.closed.length + 1 - kept ≤
      before.journal.catalog.closed.length := by omega
  have excess : (middle.catalog.closeActive.2.prune (some kept)).1 =
      before.journal.catalog.closed.take (before.journal.catalog.closed.length + 1 - kept) := by
    simp only [Catalog.prune, whole, List.length_append, List.length_singleton]
    exact List.take_append_of_le_length bound
  have held : after.journal.held =
      before.journal.catalog.closed.drop (before.journal.catalog.closed.length + 1 - kept) ++
        [newest.segment] := by
    rw [Journal.held, catalog, Catalog.takeAll, Catalog.active_prune, Catalog.active_closeActive]
    simp only [Catalog.prune, whole, List.length_append, List.length_singleton, Option.map_none,
      Option.toList_none, List.append_nil]
    exact List.drop_append_of_le_length bound
  have both : middle.held =
      (middle.catalog.closeActive.2.prune (some kept)).1 ++ after.journal.held := by
    rw [excess, held, ← List.append_assoc, List.take_append_drop, Journal.held, Catalog.takeAll,
      active, closed]
    rfl
  rw [both, List.pairwise_append] at ascending
  have last : ∀ segment ∈ before.current, segment ∈ after.journal.held := by
    intro segment member
    rw [carried segment member, held]
    exact List.mem_append_right _ (List.mem_singleton_self _)
  refine
    { active := fun segment member =>
        ⟨last segment member, stocked.listed segment (last segment member)⟩
      older := fun name member gone => ?_
      idle := fun idle => absurd idle busy }
  rw [removed] at gone
  obtain ⟨segment, given, rfl⟩ := List.mem_map.mp (mem_of_removed (wider name member) gone)
  refine ⟨segment, ?_, rfl, ascending.2.2 segment given⟩
  rw [excess] at given
  exact List.mem_of_mem_take given

theorem Tallied.spares (tallied : Tallied kept directory start history { journal, disk })
    (positive : 0 < kept) (files : journal.policy.fileEnabled = true) (occasion : Occasion) :
    Spares occasion { journal, disk } (ofOutcome (journal.serveRotation occasion disk)) := by
  have flushed := (moves_serveFlush occasion true journal disk).preserve .move tallied.consistent
  obtain ⟨closed, _, current⟩ :=
    enlists_serveFlush tallied.consistent.coherent.inactive occasion true disk
  have stocked := ((moves_serveRotation occasion journal disk).coherent_stocked
    tallied.consistent.coherent tallied.stocked).2
  have wider : ∀ name ∈ disk.names, name ∈ (journal.serveFlush occasion true disk).disk.names := by
    intro name member
    rcases current with ⟨_, same⟩ | ⟨_, _, more⟩
    · exact same ▸ member
    · exact more ▸ List.mem_append_left _ member
  have carried : ∀ segment ∈ Archive.current { journal, disk },
      segment ∈ Archive.current (ofOutcome (journal.serveFlush occasion true disk)) := by
    intro segment member
    rcases current with ⟨same, _⟩ | ⟨none, _, _⟩
    · exact same ▸ member
    · rw [none] at member
      contradiction
  have held : ∀ segment ∈ Archive.current { journal, disk },
      segment ∈ (journal.serveFlush occasion true disk).journal.held :=
    fun segment member => List.mem_append_right _ (carried segment member)
  rw [Journal.serveRotation, if_pos files, ← serveFlush_filed files] at stocked ⊢
  cases answer : (journal.serveFlush occasion true disk).answer with
  | error failure =>
      simp only [answer] at stocked ⊢
      exact stocked.spares wider held
  | ok count =>
      simp only [answer] at stocked ⊢
      cases opened : (journal.serveFlush occasion true disk).journal.writer with
      | none =>
          simp only [opened] at stocked ⊢
          exact stocked.spares wider held
      | some writer =>
          simp only [opened] at stocked ⊢
          obtain ⟨newest, there, _⟩ := flushed.coherent.active_of_writer opened
          have only : Archive.current (ofOutcome (journal.serveFlush occasion true disk)) =
              [newest.segment] := by
            rw [Archive.current, there]
            rfl
          have limit : journal.policy.keptSegments = some kept := tallied.limit
          rw [limit] at stocked ⊢
          refine stocked.spares_retired positive flushed.ordered.ascending there closed wider ?_ rfl
            rfl ?_
          · intro segment member
            have listed := carried segment member
            rw [only] at listed
            exact List.mem_singleton.mp listed
          · simp only [retiring, answer]
            rw [only]
            exact List.cons_ne_nil _ _

theorem opensSparing (tidy : IsTidy disk) (single : disk.names.Nodup)
    (distinct : ((found directory disk).map Segment.number).Nodup) :
    OpensSparing kept directory disk := by
  rintro policy obstacles rfl limit
  obtain ⟨refused, gentle⟩ := opensGently tidy single policy obstacles
  refine ⟨refused, fun journal after opened name member gone => ?_⟩
  rcases gentle journal after opened name with same | ⟨_, segment, listed, known, old, _⟩
  · rw [Disk.mem_names_iff, same, ← Disk.mem_names_iff] at gone
    exact absurd member gone
  · refine ⟨segment, listed, known, fun other stays => ?_⟩
    cases files : policy.fileEnabled with
    | false =>
        rw [(openOn_unfiled files opened).1] at gone
        exact absurd member gone
    | true =>
        obtain ⟨_, rfl, _⟩ := openOn_ok files opened
        have whole := Catalog.takeAll_prune (Journal.openedOn policy disk).catalog
          policy.keptSegments
        change _ = (Journal.openedOn policy disk).held at whole
        rw [Journal.held_openedOn, Segment.sorted_found distinct] at whole
        have ascending := Segment.pairwise_found distinct
        rw [← whole, List.mem_append] at listed
        rw [← whole, List.pairwise_append] at ascending
        exact ascending.2.2 segment (listed.resolve_right old) other stays

/-- What retention makes of a log, its history and its directory. -/
structure Frugal (kept : Nat) (directory : String) (history : List Segment) (archive : Archive) :
    Prop where
  /-- An open log that records to files has the newest segments of its history, as many as are to be
  kept, and these are the segments in its directory. -/
  filed : archive.journal.closed = false → archive.journal.policy.fileEnabled = true →
    history.Pairwise (fun older newer => older.number < newer.number) ∧
      archive.journal.catalog.closed = history.rtake kept ∧
        archive.journal.catalog.closed.length = min kept history.length ∧
          found directory archive.disk = archive.journal.held
  rotation : archive.journal.closed = false → ∀ deed : Deed,
    deed.operation = .rotate ∨ deed.operation = .rotateBehind →
      Spares deed.occasion archive (archive.perform deed)
  opening : OpensSparing kept directory archive.disk
  /-- A log that does not record to files lists no segment and leaves its directory alone. -/
  unfiled : archive.journal.policy.fileEnabled = false → archive.journal.held = [] ∧
    (∀ deed, (∀ policy, deed.operation ≠ .reopen policy) →
      (archive.perform deed).disk = archive.disk) ∧
    ∀ occasion, (archive.journal.close occasion archive.disk).disk = archive.disk

/-- Over any sessions on a directory, a log that records to files has the newest segments of those
that were closed or found since the last clear, as many as are to be kept, and no others are in the
directory. What rotations and openings remove is older than all that stays. -/
theorem retention_over_histories (positive : 0 < kept) (tidy : IsTidy start)
    (single : start.names.Nodup) (numbered : start.Numbered)
    (distinct : ((found directory start).map Segment.number).Nodup) :
    OpensSparing kept directory start ∧
      ∀ history archive, Chronicle kept directory start history archive →
        Frugal kept directory history archive := by
  have settled : Settled kept directory start [] start :=
    .first tidy single numbered distinct
  refine ⟨opensSparing tidy single distinct, fun history archive chronicle => ?_⟩
  have stocked := (chronicle.visited.orderly tidy single numbered).stocked
  obtain ⟨filed, unfiled, later⟩ := chronicle.standing positive settled
  refine
    { filed := fun going files => ?_
      rotation := fun going deed rotation => ?_
      opening := ?_
      unfiled := fun off => ?_ }
  · obtain ⟨tallied, few⟩ := filed going files
    have newest := tallied.retained.eq_rtake few
    refine ⟨(List.pairwise_append.mp tallied.ascending).1, newest, ?_, tallied.listed⟩
    have enough := tallied.retained.enough
    have most := tallied.retained.newest.length_le
    omega
  · have performed : archive.perform deed =
        ofOutcome (archive.journal.serveRotation deed.occasion archive.disk) := by
      obtain ⟨occasion, operation⟩ := deed
      rcases rotation with rfl | rfl
      · rw [perform, Journal.rotate, whileOpen_going going]
      · rfl
    rw [performed]
    cases files : archive.journal.policy.fileEnabled with
    | true => exact (filed going files).1.spares positive files deed.occasion
    | false =>
        rw [serveRotation_unfiled files]
        refine stocked.spares (fun _ member => member) fun segment member => ?_
        rw [(unfiled files).current] at member
        contradiction
  · refine opensSparing stocked.tidy stocked.single ?_
    by_cases idle : archive.journal.closed = true ∨ archive.journal.policy.fileEnabled = false
    · exact (later idle).distinct
    · rw [not_or, Bool.not_eq_true, Bool.not_eq_false] at idle
      exact (filed idle.1 idle.2).1.consistent.ordered.distinct
  · exact ⟨(unfiled off).held, fun deed still => ((unfiled off).perform still).2,
      fun occasion => ((unfiled off).close occasion).2⟩

def thriftyPolicy : Policy :=
  { plainPolicy with keptSegments := some 1 }

/-- Opened on the file of one segment, to keep one. -/
def thriftyArchive : Archive :=
  { journal := Journal.openedOn thriftyPolicy (loneDisk []), disk := loneDisk [] }

theorem opening_thriftyArchive :
    Opening 1 plainPolicy.directory thriftyPolicy .none (loneDisk []) thriftyArchive := by
  have same : (Journal.openedOn thriftyPolicy (loneDisk [])).catalog.prune
      thriftyPolicy.keptSegments =
        ([], (Journal.openedOn thriftyPolicy (loneDisk [])).catalog) := by decide +kernel
  refine ⟨rfl, rfl, ?_, fun _ => ?_⟩
  · have opened := openOn_pruned (show thriftyPolicy.fileEnabled = true from rfl)
      (show (loneDisk []).IsUsable from rfl) .none
    rw [opened, same]
    rfl
  · rw [same]
    rfl

def recordingDeed : Deed :=
  { occasion := { now := default }, operation := .add { question := default, client := default } }

def rotationDeed : Deed :=
  { occasion := { now := default }, operation := .rotate }

/-- A record is written to a second segment, which is closed. -/
theorem retention_over_histories_rotated :
    ∃ history archive, Chronicle 1 plainPolicy.directory (loneDisk []) history archive ∧
      history.length = 2 ∧ archive.journal.catalog.closed = history.rtake 1 ∧
        (found plainPolicy.directory archive.disk).length = 1 := by
  have opened := Chronicle.first opening_thriftyArchive
  have added : Chronicle 1 _ _ _ (thriftyArchive.perform recordingDeed) :=
    opened.performed rfl nofun ⟨by decide +kernel, by decide +kernel⟩ rfl
  have rotated :
      Chronicle 1 _ _ _ ((thriftyArchive.perform recordingDeed).perform rotationDeed) :=
    added.performed rfl nofun ⟨by decide +kernel, by decide +kernel⟩ (by decide +kernel)
  have distinct : ((found plainPolicy.directory (loneDisk [])).map Segment.number).Nodup := by
    decide +kernel
  have frugal := (retention_over_histories Nat.zero_lt_one (tidy_loneDisk [])
    (List.nodup_singleton _) (numbered_loneDisk []) distinct).2 _ _ rotated
  obtain ⟨_, newest, _, listed⟩ := frugal.filed (by decide +kernel) (by decide +kernel)
  exact ⟨_, _, rotated, by decide +kernel, newest, by decide +kernel⟩

def unfiledPolicy : Policy :=
  { thriftyPolicy with fileEnabled := false }

/-- A log that does not record to files lists no segment, whatever is in its directory. -/
theorem unfiled_lists_none :
    ∃ history archive, Chronicle 1 plainPolicy.directory (loneDisk []) history archive ∧
      archive.journal.closed = false ∧ archive.journal.held = [] ∧
        (found plainPolicy.directory archive.disk).length = 1 := by
  have opened := openOn_unfiled_eq (show unfiledPolicy.fileEnabled = false from rfl) .none
    (loneDisk [])
  have opening : Opening 1 plainPolicy.directory unfiledPolicy .none (loneDisk [])
      { journal := _, disk := loneDisk [] } := ⟨rfl, rfl, opened, nofun⟩
  exact ⟨_, _, .first opening, rfl, rfl, by decide +kernel⟩

end QueryJournal.Archive
