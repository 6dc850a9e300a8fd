import Mathlib.Data.List.DropRight
import QueryJournal.Proofs.Journal.Growth

namespace QueryJournal

open QueryJournal.Segment (Fits IsTidy found)
open QueryJournal.Storage

/-!
Retention. Of all segments that were closed or found, a log keeps the newest ones, and the directory
has no other. What is closed and found is told as a history, of which nothing is ever forgotten
before everything is cleared.
-/

/-!
### The newest of a history
-/

/-- The last segments of a history, and no fewer than are to be kept as far as there are as many. -/
structure Retained (kept : Nat) (history closed : List Segment) : Prop where
  newest : closed <:+ history
  enough : min kept history.length ≤ closed.length

namespace Retained

variable {kept : Nat} {history closed : List Segment}

theorem all (kept : Nat) (closed : List Segment) : Retained kept closed closed :=
  ⟨List.suffix_refl _, Nat.min_le_right _ _⟩

theorem append (retained : Retained kept history closed) (new : List Segment) :
    Retained kept (history ++ new) (closed ++ new) := by
  obtain ⟨⟨older, rfl⟩, enough⟩ := retained
  refine ⟨⟨older, (List.append_assoc _ _ _).symm⟩, ?_⟩
  simp only [List.length_append] at enough ⊢
  omega

theorem prune (retained : Retained kept history closed) :
    Retained kept history (closed.drop (closed.length - kept)) := by
  obtain ⟨newest, enough⟩ := retained
  refine ⟨(List.drop_suffix _ _).trans newest, ?_⟩
  rw [List.length_drop]
  omega

theorem eq_rtake (retained : Retained kept history closed) (few : closed.length ≤ kept) :
    closed = history.rtake kept := by
  obtain ⟨⟨older, rfl⟩, enough⟩ := retained
  rw [List.length_append] at enough
  have first : (older ++ closed).length - kept = older.length := by
    rw [List.length_append]
    omega
  rw [List.rtake, first, List.drop_left]

end Retained

/-!
### The segments in the directory
-/

namespace Segment

variable {directory : String} {disk : Disk} {obstacles : Obstacles} {excess rest : List Segment}

theorem pairwise_found (distinct : ((found directory disk).map Segment.number).Nodup) :
    (found directory disk).Pairwise fun older newer => older.number < newer.number := by
  rw [found, discover] at distinct ⊢
  exact pairwise_sorted_lt (((sorted_perm _).map Segment.number).nodup_iff.mp distinct)

/-- After some of the segments are removed the others are found. -/
theorem found_removeAll (tidy : IsTidy disk) (single : disk.names.Nodup)
    (distinct : ((found directory disk).map Segment.number).Nodup)
    (whole : found directory disk = excess ++ rest)
    (removed : (Journal.removeAll obstacles disk excess).1 = .ok ()) :
    found directory (Journal.removeAll obstacles disk excess).2 = rest := by
  have fewer := Indexed.names_removeAll obstacles disk excess
  have still : IsTidy (Journal.removeAll obstacles disk excess).2 :=
    fun name member => tidy name (fewer.subset member)
  have apart : ((found directory disk).map Segment.name).Nodup := nodup_names_found tidy single
  rw [whole, List.map_append, List.nodup_append] at apart
  have ascending := pairwise_found distinct
  rw [whole, List.pairwise_append] at ascending
  refine eq_of_ascending (pairwise_found (nodup_numbers_of_sublist fewer distinct)) ascending.2.1
    fun segment => ⟨fun member => ?_, fun member => ?_⟩
  · have before := mem_found_of_sublist tidy fewer member
    rw [whole, List.mem_append] at before
    refine before.resolve_left fun gone => ?_
    obtain ⟨node, there⟩ := find?_of_mem_found still member
    rw [Journal.find?_of_removeAll_ok removed gone] at there
    contradiction
  · have before : segment ∈ found directory disk := whole ▸ List.mem_append_right excess member
    obtain ⟨listed, known⟩ := (mem_found tidy).mp before
    refine (mem_found still).mpr ⟨?_, known⟩
    have other : segment.name ∉ excess.map Segment.name := fun gone =>
      apart.2.2 _ gone _ (List.mem_map_of_mem member) rfl
    rw [Disk.mem_names_iff, Journal.find?_removeAll_ne other, ← Disk.mem_names_iff]
    exact listed

theorem sorted_found (distinct : ((found directory disk).map Segment.number).Nodup) :
    sorted (found directory disk) = found directory disk :=
  eq_of_ascending (pairwise_sorted_lt distinct) (pairwise_found distinct)
    fun _ => (sorted_perm _).mem_iff

end Segment

namespace Archive

variable {kept : Nat} {directory : String} {start disk : Disk} {history : List Segment}
  {occasion : Occasion} {archive before after : Archive} {journal : Journal} {policy : Policy}
  {obstacles : Obstacles}

/-!
### What a flush does to the index
-/

def current (archive : Archive) : List Segment :=
  (archive.journal.catalog.active.map ActiveSegment.segment).toList

theorem held_eq (archive : Archive) :
    archive.journal.held = archive.journal.catalog.closed ++ archive.current :=
  rfl

/-- A flush closes no segment. Where none is active it may make the next one active, whose file is
then in the directory. -/
structure Enlists (occasion : Occasion) (before after : Archive) : Prop where
  closed : after.journal.catalog.closed = before.journal.catalog.closed
  next : before.journal.catalog.nextNumber ≤ after.journal.catalog.nextNumber
  current : after.current = before.current ∧ after.disk.names = before.disk.names ∨
    before.current = [] ∧ after.current = [before.upcoming occasion] ∧
      after.disk.names = before.disk.names ++ [(before.upcoming occasion).name]

theorem Enlists.congr {first last : Archive} (enlists : Enlists occasion before after)
    (policy : first.journal.policy = before.journal.policy)
    (catalog : first.journal.catalog = before.journal.catalog) (disk : first.disk = before.disk)
    (same : last.journal.catalog = after.journal.catalog) (names : last.disk = after.disk) :
    Enlists occasion first last := by
  obtain ⟨closed, next, current⟩ := enlists
  rw [upcoming, ← policy, ← catalog, ← disk, ← names] at current
  rw [← catalog, ← same] at closed next
  simp only [Archive.current, ← catalog, ← same] at current
  exact ⟨closed, next, current⟩

theorem Enlists.refl (archive : Archive) : Enlists occasion archive archive :=
  ⟨rfl, Nat.le_refl _, .inl ⟨rfl, rfl⟩⟩

theorem names_append (writer : SegmentWriter) (obstacles : Obstacles) (disk : Disk)
    (batch : Utf8.Bytes) : (writer.append obstacles disk batch).2.2.names = disk.names := by
  rw [SegmentWriter.append]
  split
  · exact Disk.names_modify _ _ _
  · exact (Disk.names_modify _ _ _).trans (Disk.names_modify _ _ _)

theorem enlists_writeBatch (journal : Journal)
    (inactive : journal.writer = none → journal.catalog.active = none) (occasion : Occasion)
    (disk : Disk) (batch : Utf8.Bytes) :
    Enlists occasion { journal, disk } (ofOutcome (journal.writeBatch occasion disk batch)) := by
  cases opened : journal.writer with
  | some writer =>
      simp only [Journal.writeBatch, Journal.activeWriter, opened, ofOutcome]
      exact ⟨rfl, Nat.le_refl _, .inl ⟨rfl, names_append _ _ _ _⟩⟩
  | none =>
      simp only [Journal.writeBatch, Journal.activeWriter, opened, ofOutcome]
      cases made : SegmentWriter.create occasion.obstacles disk
          (journal.catalog.allocate journal.policy.directory occasion.now).1 false with
      | mk answer later =>
          cases answer with
          | error failure =>
              refine ⟨rfl, Nat.le_succ _, .inl ⟨rfl, ?_⟩⟩
              rw [Disk.names, SegmentWriter.folder?_create_error made, Disk.names]
          | ok writer =>
              refine ⟨rfl, Nat.le_succ _, .inr ⟨?_, rfl, ?_⟩⟩
              · rw [current, inactive opened]
                rfl
              · exact (names_append _ _ _ _).trans (SegmentWriter.names_create_ok made).2

theorem enlists_serveFlush (inactive : journal.writer = none → journal.catalog.active = none)
    (occasion : Occasion) (force : Bool) (disk : Disk) :
    Enlists occasion { journal, disk } (ofOutcome (journal.serveFlush occasion force disk)) := by
  have written := enlists_writeBatch { journal with buffer := journal.buffer.pending.2 } inactive
    occasion disk (journal.buffer.pending.1.flatMap Entry.line)
  rw [Journal.serveFlush]
  split
  · rw [Journal.flushBuffer]
    split
    · exact .refl _
    · dsimp only
      split
      · exact (Enlists.refl { journal, disk }).congr rfl rfl rfl rfl rfl
      · split
        · exact written.congr rfl rfl rfl rfl rfl
        · have landed : Enlists occasion { journal, disk } _ := written.congr rfl rfl rfl rfl rfl
          obtain ⟨closed, next, current⟩ := landed
          refine ⟨closed, next, ?_⟩
          simpa [Archive.current, ofOutcome, Catalog.commit, Option.map_map, Function.comp_def]
            using current
  · exact .refl _

/-!
### What a log holds of its history
-/

/-- A log keeps the newest segments of a history, to which the active one does not belong yet, and
no others are in its directory. -/
structure Tallied (kept : Nat) (directory : String) (start : Disk) (history : List Segment)
    (archive : Archive) : Prop where
  consistent : Consistent directory start archive
  stocked : Stocked archive
  limit : archive.journal.policy.keptSegments = some kept
  listed : found directory archive.disk = archive.journal.held
  retained : Retained kept history archive.journal.catalog.closed
  ascending : (history ++ archive.current).Pairwise fun older newer => older.number < newer.number
  below : ∀ segment ∈ history ++ archive.current,
    segment.number < archive.journal.catalog.nextNumber

theorem Tallied.enlist (tallied : Tallied kept directory start history before)
    (moves : Moves occasion before after) (policy : after.journal.policy = before.journal.policy)
    (enlists : Enlists occasion before after)
    (fits : Fits before.journal.catalog.nextNumber occasion.now.truncated) :
    Tallied kept directory start history after := by
  obtain ⟨consistent, stocked, limit, listed, retained, ascending, below⟩ := tallied
  obtain ⟨closed, next, current⟩ := enlists
  have still := moves.preserve .move consistent
  have held := after.held_eq
  refine
    { consistent := still
      stocked := (moves.coherent_stocked consistent.coherent stocked).2
      limit := policy ▸ limit
      listed := ?_
      retained := closed ▸ retained
      ascending := ?_
      below := ?_ }
  · rcases current with ⟨same, names⟩ | ⟨absent, new, names⟩
    · rw [held, closed, same, ← before.held_eq, ← listed, found, found, names]
    · have named : before.upcoming occasion = Segment.inDirectory directory
          before.journal.catalog.nextNumber occasion.now :=
        congrArg (Segment.inDirectory · _ _) consistent.ordered.placed
      have whole := before.held_eq
      rw [absent, List.append_nil] at whole
      have perm := Segment.found_perm_of_made fits (named ▸ names)
      rw [listed, ← named, whole] at perm
      rw [held, closed, new]
      exact Segment.eq_of_ascending (Segment.pairwise_found still.ordered.distinct)
        (by simpa only [held, closed, new] using still.ordered.ascending) fun _ => perm.mem_iff
  · rcases current with ⟨same, _⟩ | ⟨absent, new, _⟩
    · rw [same]
      exact ascending
    · rw [absent, List.append_nil] at ascending below
      rw [new, List.pairwise_append]
      refine ⟨ascending, List.pairwise_singleton _ _, fun older member newer last => ?_⟩
      rw [List.mem_singleton.mp last]
      exact below older member
  · intro segment member
    rcases List.mem_append.mp member with earlier | active
    · exact Nat.lt_of_lt_of_le (below segment (List.mem_append_left _ earlier)) next
    · exact still.ordered.below segment (held ▸ List.mem_append_right _ active)

theorem Tallied.serveFlush {journal : Journal}
    (tallied : Tallied kept directory start history { journal, disk }) (occasion : Occasion)
    (fits : Fits journal.catalog.nextNumber occasion.now.truncated) (force : Bool) :
    Tallied kept directory start history (ofOutcome (journal.serveFlush occasion force disk)) :=
  tallied.enlist (moves_serveFlush occasion force journal disk)
    (sameSettings_serveFlush occasion force journal disk).1
    (enlists_serveFlush tallied.consistent.coherent.inactive occasion force disk) fits

theorem current_release (journal : Journal) (disk : Disk) :
    current
        { journal := { journal with catalog := journal.catalog.closeActive.2, writer := none }
          disk } = [] := by
  rw [current, Catalog.active_closeActive]
  rfl

/-- With the active segment closed, it belongs to the history. -/
theorem Tallied.release {journal : Journal}
    (tallied : Tallied kept directory start history { journal, disk }) :
    Tallied kept directory start (history ++ current { journal, disk })
      { journal := { journal with catalog := journal.catalog.closeActive.2, writer := none }
        disk } := by
  obtain ⟨consistent, stocked, limit, listed, retained, ascending, below⟩ := tallied
  have move : Move { now := default } { journal, disk }
      { journal := { journal with catalog := journal.catalog.closeActive.2, writer := none }
        disk } := .release
  have closed : journal.catalog.closeActive.2.closed =
      journal.catalog.closed ++ current { journal, disk } := by
    rw [Catalog.closeActive, current]
    cases journal.catalog.active <;> simp
  refine
    { consistent := consistent.move move
      stocked := stocked.move consistent.coherent move
      limit
      listed := ?_
      retained := ?_
      ascending := ?_
      below := ?_ }
  · rw [Journal.held, Catalog.takeAll_closeActive]
    exact listed
  · exact closed ▸ retained.append _
  · rw [current_release, List.append_nil]
    exact ascending
  · rw [current_release, List.append_nil, Catalog.nextNumber_closeActive]
    exact below

/-- Without an active segment the oldest ones go, and are gone if their removal succeeds. -/
theorem Tallied.prune {journal : Journal}
    (tallied : Tallied kept directory start history { journal, disk })
    (released : journal.writer = none)
    (removed : (Journal.removeAll obstacles disk
      (journal.catalog.prune journal.policy.keptSegments).1).1 = .ok ()) :
    Tallied kept directory start history
        { journal :=
            { journal with
              catalog := (journal.catalog.prune journal.policy.keptSegments).2 }
          disk := (Journal.removeAll obstacles disk
            (journal.catalog.prune journal.policy.keptSegments).1).2 } ∧
      (journal.catalog.prune journal.policy.keptSegments).2.closed.length ≤ kept := by
  obtain ⟨consistent, stocked, limit, listed, retained, ascending, below⟩ := tallied
  have move : Move { now := default, obstacles } { journal, disk }
      { journal :=
          { journal with catalog := (journal.catalog.prune journal.policy.keptSegments).2 }
        disk := (Journal.removeAll obstacles disk
          (journal.catalog.prune journal.policy.keptSegments).1).2 } := .prune released
  have active := Catalog.active_prune journal.catalog journal.policy.keptSegments
  have next := Catalog.nextNumber_prune journal.catalog journal.policy.keptSegments
  have closed : (journal.catalog.prune journal.policy.keptSegments).2.closed =
      journal.catalog.closed.drop (journal.catalog.closed.length - kept) := by
    rw [limit]
    rfl
  refine
    ⟨{ consistent := consistent.move move
       stocked := stocked.move consistent.coherent move
       limit
       listed := ?_
       retained := closed ▸ retained.prune
       ascending := ?_
       below := ?_ }, ?_⟩
  · have whole := listed.trans
      (Catalog.takeAll_prune journal.catalog journal.policy.keptSegments).symm
    exact Segment.found_removeAll stocked.tidy stocked.single consistent.ordered.distinct whole
      removed
  · rw [current, active]
    exact ascending
  · rw [current, active, next]
    exact below
  · rw [closed, List.length_drop]
    omega

/-- After a clear whose removals succeed nothing is left. -/
theorem Tallied.clear {journal : Journal}
    (tallied : Tallied kept directory start history { journal, disk })
    (going : journal.closed = false) (occasion : Occasion)
    (removed : (Journal.removeAll occasion.obstacles disk journal.held).1 = .ok ()) :
    Tallied kept directory start [] (ofOutcome (journal.clear occasion disk)) := by
  obtain ⟨consistent, stocked, limit, listed, -, -, -⟩ := tallied
  have ordered := consistent.ordered.clear occasion
  have coherent := consistent.coherent.clear occasion
  have emptied := stocked.clear occasion
  have cleared : ofOutcome (journal.clear occasion disk) =
      { journal :=
          { journal with
            buffer := journal.buffer.clear
            catalog := journal.catalog.takeAll.2
            writer := none }
        disk := (Journal.removeAll occasion.obstacles disk journal.held).2 } := by
    rw [Journal.clear, Journal.whileOpen, if_neg (ne_true_of_eq_false going)]
    rfl
  rw [cleared] at ordered coherent emptied ⊢
  exact
    { consistent := ⟨ordered, coherent⟩
      stocked := emptied
      limit
      listed := Segment.found_removeAll stocked.tidy stocked.single consistent.ordered.distinct
        (listed.trans (List.append_nil _).symm) removed
      retained := .all kept []
      ascending := .nil
      below := fun _ member => absurd member List.not_mem_nil }

end Archive

end QueryJournal
