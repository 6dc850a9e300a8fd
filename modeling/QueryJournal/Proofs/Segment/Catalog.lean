import QueryJournal.Proofs.Segment.Naming
import QueryJournal.Segment.Catalog

namespace QueryJournal

/-!
What the changes of an index do to the segments that it holds, to the active one and to the number
that is given out next.
-/

namespace Catalog

variable {catalog : Catalog} {segment : Segment}

theorem takeAll_commit (catalog : Catalog) (length : Nat) :
    (catalog.commit length).takeAll.1 = catalog.takeAll.1 := by
  simp [takeAll, commit, Option.map_map, Function.comp_def]

theorem takeAll_closeActive (catalog : Catalog) :
    catalog.closeActive.2.takeAll.1 = catalog.takeAll.1 := by
  rw [closeActive]
  cases active : catalog.active <;> simp [takeAll, active]

/-- What is given up are the oldest segments, and the others stay. -/
theorem takeAll_prune (catalog : Catalog) (kept : Option Nat) :
    (catalog.prune kept).1 ++ (catalog.prune kept).2.takeAll.1 = catalog.takeAll.1 := by
  cases kept with
  | none => rfl
  | some kept =>
      simp only [prune, takeAll]
      rw [← List.append_assoc, List.take_append_drop]

theorem takeAll_activate (absent : catalog.active = none) (segment : Segment) :
    (catalog.activate segment).takeAll.1 = catalog.takeAll.1 ++ [segment] := by
  simp [takeAll, activate, absent]

theorem active_closeActive (catalog : Catalog) : catalog.closeActive.2.active = none := by
  rw [closeActive]
  split
  · assumption
  · rfl

theorem nextNumber_closeActive (catalog : Catalog) :
    catalog.closeActive.2.nextNumber = catalog.nextNumber := by
  rw [closeActive]
  split <;> rfl

theorem active_prune (catalog : Catalog) (kept : Option Nat) :
    (catalog.prune kept).2.active = catalog.active := by
  cases kept <;> rfl

theorem nextNumber_prune (catalog : Catalog) (kept : Option Nat) :
    (catalog.prune kept).2.nextNumber = catalog.nextNumber := by
  cases kept <;> rfl

/-- A search reads the segments that are listed, in the opposite order. -/
theorem map_segment_scanPlan (catalog : Catalog) :
    catalog.scanPlan.map ScanTarget.segment = catalog.takeAll.1.reverse := by
  cases active : catalog.active <;> simp [scanPlan, takeAll, active, Function.comp_def]

theorem map_segment_statuses (catalog : Catalog) :
    catalog.statuses.map SegmentStatus.segment = catalog.takeAll.1 := by
  cases active : catalog.active <;> simp [statuses, takeAll, active, Function.comp_def]

/-- The next number of an index is higher than those of the segments that it was made of. -/
theorem lt_nextNumber_ofExisting {existing : List Segment} (member : segment ∈ existing) :
    segment.number < (ofExisting existing).nextNumber := by
  have ordered := Segment.pairwise_sorted existing
  have there := (Segment.sorted_perm existing).mem_iff.mpr member
  simp only [ofExisting]
  split
  · rename_i last newest
    obtain ⟨older, whole⟩ := List.getLast?_eq_some_iff.mp newest
    rw [whole, List.mem_append, List.mem_singleton] at there
    rw [whole, List.pairwise_append] at ordered
    rcases there with earlier | rfl
    · exact Nat.lt_succ_of_le (ordered.2.2 segment earlier last (List.mem_singleton_self last))
    · exact Nat.lt_succ_self _
  · rename_i none
    rw [List.getLast?_eq_none_iff.mp none] at there
    contradiction

end Catalog

end QueryJournal
