import QueryJournal.Proofs.Journal.Moves
import QueryJournal.Proofs.Segment.Catalog

namespace QueryJournal

open QueryJournal.Segment (IsTidy found)
open QueryJournal.Storage

/-!
The numbers of segments. They ascend in the index, and no number in the index or in the directory
reaches the one that is given out next, whatever is done with the log.
-/

namespace Archive

variable {directory : String} {occasion : Occasion} {archive before after : Archive}
  {policy : Policy} {disk : Disk}

/-- The numbers of the index ascend, and no number in the index or in the directory reaches the next
one. The active segment has the highest number of all. -/
structure Ordered (directory : String) (archive : Archive) : Prop where
  placed : archive.journal.policy.directory = directory
  tidy : IsTidy archive.disk
  distinct : ((found directory archive.disk).map Segment.number).Nodup
  known : ∀ segment ∈ found directory archive.disk,
    segment.number < archive.journal.catalog.nextNumber
  ascending : archive.journal.held.Pairwise fun older newer => older.number < newer.number
  below : ∀ segment ∈ archive.journal.held,
    segment.number < archive.journal.catalog.nextNumber
  newest : ∀ active ∈ archive.journal.catalog.active, ∀ segment ∈ found directory archive.disk,
    segment.name ≠ active.segment.name → segment.number < active.segment.number

/-- Fewer segments are in order as well. -/
theorem Ordered.fewer (ordered : Ordered directory before)
    (policy : after.journal.policy = before.journal.policy)
    (held : after.journal.held.Sublist before.journal.held)
    (next : before.journal.catalog.nextNumber ≤ after.journal.catalog.nextNumber)
    (active : ∀ active ∈ after.journal.catalog.active,
      ∃ earlier ∈ before.journal.catalog.active, earlier.segment = active.segment)
    (names : after.disk.names.Sublist before.disk.names) : Ordered directory after :=
  { placed := policy ▸ ordered.placed
    tidy := fun name member => ordered.tidy name (names.subset member)
    distinct := Segment.nodup_numbers_of_sublist names ordered.distinct
    known := fun segment member =>
      Nat.lt_of_lt_of_le
        (ordered.known segment (Segment.mem_found_of_sublist ordered.tidy names member)) next
    ascending := ordered.ascending.sublist held
    below := fun segment member =>
      Nat.lt_of_lt_of_le (ordered.below segment (held.subset member)) next
    newest := by
      intro opened there segment member apart
      obtain ⟨earlier, before, same⟩ := active opened there
      rw [← same] at apart ⊢
      exact ordered.newest earlier before segment
        (Segment.mem_found_of_sublist ordered.tidy names member) apart }

/-- A new segment is in order behind the others, whether or not it is found under its name. -/
theorem Ordered.make {segment : Segment} (ordered : Ordered directory before)
    (policy : after.journal.policy = before.journal.policy)
    (new : segment =
      Segment.inDirectory directory before.journal.catalog.nextNumber occasion.now)
    (held : after.journal.held = before.journal.held ++ [segment])
    (next : after.journal.catalog.nextNumber = before.journal.catalog.nextNumber + 1)
    (active : after.journal.catalog.active = some { segment, committed := 0 })
    (names : after.disk.names = before.disk.names ++ [segment.name]) : Ordered directory after := by
  have proper : Path.IsName segment.name := by
    rw [new, Segment.name_inDirectory]
    exact Segment.isName_fileName _ _
  have candidate : Segment.isCandidate segment.name = true := by
    rw [new]
    exact Segment.isCandidate_inDirectory _ _ _
  have number : segment.number = before.journal.catalog.nextNumber := by
    rw [new]
    rfl
  have perm := Segment.found_perm_of_added directory candidate names
  -- A name can be written with a number or a year that it cannot be read with, so the new segment
  -- need not be found.
  have latest : ∀ other ∈ (Segment.parse? (Path.join directory segment.name)).toList,
      other.number = before.journal.catalog.nextNumber := by
    intro other member
    rw [Option.mem_toList, new] at member
    exact Segment.number_of_parse? member
  refine
    { placed := policy ▸ ordered.placed
      tidy := ?_
      distinct := ?_
      known := ?_
      ascending := ?_
      below := ?_
      newest := ?_ }
  · intro name member
    rw [names, List.mem_append, List.mem_singleton] at member
    rcases member with earlier | rfl
    · exact ordered.tidy name earlier
    · exact proper.1
  · rw [(perm.map Segment.number).nodup_iff, List.map_append]
    refine ordered.distinct.append ?_ ?_
    · cases Segment.parse? (Path.join directory segment.name) <;> simp
    · intro shared earlier last
      obtain ⟨old, member, rfl⟩ := List.mem_map.mp earlier
      obtain ⟨other, read, same⟩ := List.mem_map.mp last
      have below := ordered.known old member
      rw [← same, latest other read] at below
      exact Nat.lt_irrefl _ below
  · intro other member
    rw [next]
    rcases List.mem_append.mp (perm.mem_iff.mp member) with earlier | last
    · exact Nat.lt_succ_of_lt (ordered.known other earlier)
    · exact Nat.lt_succ_of_le (Nat.le_of_eq (latest other last))
  · rw [held, List.pairwise_append]
    refine ⟨ordered.ascending, List.pairwise_singleton _ _, ?_⟩
    intro older member newer last
    rw [List.mem_singleton.mp last, number]
    exact ordered.below older member
  · intro other member
    rw [next]
    rw [held, List.mem_append, List.mem_singleton] at member
    rcases member with earlier | rfl
    · exact Nat.lt_succ_of_lt (ordered.below other earlier)
    · exact Nat.lt_succ_of_le (Nat.le_of_eq number)
  · intro opened there other member apart
    rw [active, Option.mem_some] at there
    rw [← there] at apart ⊢
    rw [number]
    rcases List.mem_append.mp (perm.mem_iff.mp member) with earlier | last
    · exact ordered.known other earlier
    · exact absurd (Segment.name_of_parse? proper (Option.mem_toList.mp last)) apart

theorem Ordered.move (ordered : Ordered directory before)
    (inactive : before.journal.writer = none → before.journal.catalog.active = none)
    (move : Move occasion before after) : Ordered directory after := by
  cases move with
  | remember policy catalog writer =>
      refine ordered.fewer policy ?_ ?_ ?_ (List.Sublist.refl _)
      · rw [Journal.held, catalog]
        exact List.Sublist.refl _
      · rw [catalog]
      · rw [catalog]
        exact fun active there => ⟨active, there, rfl⟩
  | refuse absent refused =>
      refine ordered.fewer rfl (List.Sublist.refl _) (Nat.le_succ _)
        (fun active there => ⟨active, there, rfl⟩) ?_
      rw [Disk.names, SegmentWriter.folder?_create_error refused]
      exact List.Sublist.refl _
  | make absent made =>
      refine ordered.make rfl (congrArg (Segment.inDirectory · _ _) ordered.placed) ?_ rfl rfl
        (SegmentWriter.names_create_ok made).2
      exact Catalog.takeAll_activate (inactive absent) _
  | fail batch present =>
      refine ordered.fewer rfl (List.Sublist.refl _) (Nat.le_refl _)
        (fun active there => ⟨active, there, rfl⟩) ?_
      simp [SegmentWriter.rollBack, SegmentWriter.writePart]
  | land present whole =>
      refine ordered.fewer rfl ?_ (Nat.le_refl _) (fun active there => ?_) ?_
      · rw [Journal.held, Catalog.takeAll_commit]
        exact List.Sublist.refl _
      · obtain ⟨earlier, before, rfl⟩ := Option.map_eq_some_iff.mp there
        exact ⟨earlier, before, rfl⟩
      · simp [SegmentWriter.writePart]
  | release =>
      refine ordered.fewer rfl ?_ ?_ ?_ (List.Sublist.refl _)
      · rw [Journal.held, Catalog.takeAll_closeActive]
        exact List.Sublist.refl _
      · rw [Catalog.nextNumber_closeActive]
      · simp [Catalog.active_closeActive]
  | @prune journal _ _ =>
      have whole := Catalog.takeAll_prune journal.catalog journal.policy.keptSegments
      refine ordered.fewer rfl ?_ ?_ ?_ (Indexed.names_removeAll _ _ _)
      · rw [Journal.held, Journal.held, ← whole]
        exact List.sublist_append_right _ _
      · rw [Catalog.nextNumber_prune]
      · exact fun active there => ⟨active, (Catalog.active_prune _ _).symm.trans there, rfl⟩

theorem Ordered.clear (ordered : Ordered directory archive) (occasion : Occasion) :
    Ordered directory (ofOutcome (archive.journal.clear occasion archive.disk)) := by
  rw [Journal.clear, Journal.whileOpen]
  split
  · exact ordered
  · refine ordered.fewer rfl ?_ (Nat.le_refl _) ?_ (Indexed.names_removeAll _ _ _)
    · simp [ofOutcome, Journal.held, Catalog.takeAll]
    · simp [ofOutcome, Catalog.takeAll]

theorem Ordered.openedOn (tidy : IsTidy disk)
    (distinct : ((found policy.directory disk).map Segment.number).Nodup) :
    Ordered policy.directory { journal := Journal.openedOn policy disk, disk } :=
  { placed := rfl
    tidy
    distinct
    known := fun _ member => Journal.number_lt_nextNumber (Journal.mem_held_openedOn.mpr member)
    ascending := by
      rw [Journal.held_openedOn]
      exact Segment.pairwise_sorted_lt distinct
    below := fun _ member => Journal.number_lt_nextNumber member
    newest := fun _ there => absurd there (Option.not_mem_none _) }

end Archive

end QueryJournal
