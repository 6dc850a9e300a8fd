import QueryJournal.Proofs.Journal.Index
import QueryJournal.Proofs.Segment.Catalog

namespace QueryJournal

open QueryJournal.Backward
open QueryJournal.Pipeline (Opened Sound idle)
open QueryJournal.Search (entryOf? itemsOf)
open QueryJournal.Segment (IsTidy found)
open QueryJournal.Storage

/-!
Opening a log on a directory. The records of a log that was closed before are found again, except
for those that it could not write.
-/

/-- The settings of a log that records, also to files, and never gives up a segment for others. -/
structure Policy.Retains (policy : Policy) : Prop where
  enabled : policy.enabled = true
  fileEnabled : policy.fileEnabled = true
  keptSegments : policy.keptSegments = none

def Policy.ceiling (policy : Policy) : Nat :=
  max policy.memorySize 1 * overflowFactor

/-- The ledger of a log that is opened again: what was not written is gone. -/
def Ledger.reopened (ledger : Ledger) (policy : Policy) : Ledger :=
  { records := ledger.stored
    written := ledger.stored.length
    inFlight := 0
    ceiling := policy.ceiling
    unread := ledger.unread
    covered := Nat.le_refl _ }

namespace Journal

def openedOn (policy : Policy) (disk : Disk) : Journal :=
  { policy
    buffer := Buffer.new policy.memorySize policy.fileEnabled
    catalog := Catalog.ofExisting (found policy.directory disk)
    writer := none
    closed := false
    encodeFailures := 0
    failedFlushes := 0 }

variable {policy : Policy} {disk : Disk} {segment : Segment}

theorem openOn_eq (retains : policy.Retains) (obstacles : Obstacles) (usable : disk.IsUsable) :
    openOn policy obstacles disk = (.ok (openedOn policy disk), disk) := by
  rw [openOn, if_pos retains.fileEnabled, Disk.list_of_isUsable usable]
  simp only [retains.keptSegments, Catalog.prune, removeAll]
  rfl

theorem isUsable_of_openOn {obstacles : Obstacles} {journal : Journal} {after : Disk}
    (retains : policy.Retains) (opened : openOn policy obstacles disk = (.ok journal, after)) :
    disk.IsUsable := by
  rw [openOn, if_pos retains.fileEnabled] at opened
  cases listed : disk.list with
  | error failure => simp [listed] at opened
  | ok names => exact Disk.isUsable_of_list listed

theorem held_openedOn (policy : Policy) (disk : Disk) :
    (openedOn policy disk).held = Segment.sorted (found policy.directory disk) := by
  simp [held, openedOn, Catalog.ofExisting, Catalog.takeAll]

theorem mem_held_openedOn :
    segment ∈ (openedOn policy disk).held ↔ segment ∈ found policy.directory disk := by
  rw [held_openedOn, (Segment.sorted_perm _).mem_iff]

theorem number_lt_nextNumber (member : segment ∈ (openedOn policy disk).held) :
    segment.number < (openedOn policy disk).catalog.nextNumber :=
  Catalog.lt_nextNumber_ofExisting (mem_held_openedOn.mp member)

theorem indexed_openedOn (usable : disk.IsUsable) (tidy : IsTidy disk)
    (distinct : ((found policy.directory disk).map Segment.number).Nodup) :
    Indexed (openedOn policy disk) disk :=
  { usable
    tidy
    distinct
    below := fun _ member => number_lt_nextNumber (mem_held_openedOn.mpr member)
    listed := fun _ member => mem_held_openedOn.mp member
    ascending := by
      rw [held_openedOn]
      exact Segment.pairwise_sorted_lt distinct
    known := fun _ member _ _ _ => mem_held_openedOn.mpr member }

theorem opened_openedOn (tidy : IsTidy disk) (numbered : disk.Numbered) :
    (idle (openedOn policy disk) disk).Opened :=
  { phase := rfl
    empty := rfl
    inFlight := rfl
    writer := rfl
    active := rfl
    numbered
    present := by
      intro segment member
      have listed := (Segment.sorted_perm _).mem_iff.mp member
      exact Segment.find?_of_mem_found tidy listed }

end Journal

/-!
### Segments that hold records
-/

variable {ledger : Ledger} {journal : Journal} {disk : Disk} {policy : Policy}

/-- Whether a segment is a file. A directory under the name of a segment has no records. -/
def isFile (disk : Disk) (segment : Segment) : Bool :=
  match disk.find? segment.name with
  | some (.file _ _) => true
  | _ => false

theorem isFile_iff {segment : Segment} : isFile disk segment = true ↔
    ∃ identity content, disk.find? segment.name = some (.file identity content) := by
  rw [isFile]
  split
  · rename_i found
    simp [found]
  · rename_i other
    simpa using other

theorem items_of_not_isFile {segment : Segment} (other : isFile disk segment = false) :
    itemsOf (Journal.reader? disk { segment, limit := none }) = [] := by
  rw [isFile] at other
  rw [Journal.reader?]
  split at other
  · contradiction
  · rename_i node
    split
    · rfl
    · exact items_ofUnreadable
    · rename_i found
      exact absurd found (node _ _)

theorem closedItems_filter (disk : Disk) (segments : List Segment) :
    closedItems disk (segments.filter (isFile disk)) = closedItems disk segments := by
  induction segments with
  | nil => rfl
  | cons segment segments ih =>
      have first : closedItems disk (segment :: segments) =
          closedItems disk segments ++ closedItems disk [segment] :=
        closedItems_append disk [segment] segments
      rw [first, ← ih, List.filter_cons]
      split
      · exact closedItems_append disk [segment] _
      · rename_i other
        have none := items_of_not_isFile (Bool.eq_false_iff.mpr other)
        simp [closedItems, none]

/-- Whoever opens the directory finds the items that the closed log had. -/
theorem closedItems_openedOn (indexed : Indexed journal disk)
    (directory : policy.directory = journal.policy.directory) :
    closedItems disk (Journal.openedOn policy disk).held = closedItems disk journal.held := by
  have fresh : Indexed (Journal.openedOn policy disk) disk :=
    Journal.indexed_openedOn indexed.usable indexed.tidy (directory ▸ indexed.distinct)
  have same : (Journal.openedOn policy disk).held.filter (isFile disk) =
      journal.held.filter (isFile disk) := by
    refine Segment.eq_of_ascending (fresh.ascending.filter _) (indexed.ascending.filter _) ?_
    intro segment
    rw [List.mem_filter, List.mem_filter, Journal.mem_held_openedOn, directory]
    refine and_congr_left fun file => ?_
    obtain ⟨identity, content, there⟩ := isFile_iff.mp file
    exact ⟨fun listed => indexed.known segment listed identity content there,
      indexed.listed segment⟩
  rw [← closedItems_filter, same, closedItems_filter]

/-- A log that is opened on the directory of a log that let go of its files has the records that
were written. -/
theorem Pipeline.Sound.reopened (sound : Sound ledger (idle journal disk))
    (indexed : Indexed journal disk) (released : journal.writer = none)
    (retains : policy.Retains) (directory : policy.directory = journal.policy.directory) :
    Sound (ledger.reopened policy) (idle (Journal.openedOn policy disk) disk) := by
  obtain ⟨_, _, _, older, current, stored, _, shelved⟩ := sound
  obtain ⟨none, inactive⟩ := shelved.shut released
  have closed : journal.held = journal.catalog.closed := by
    change journal.catalog.active = Option.none at inactive
    simp [Journal.held, Catalog.takeAll, inactive]
  have items : closedItems disk (Journal.openedOn policy disk).catalog.closed =
      closedItems disk journal.catalog.closed := by
    rw [← closed, ← closedItems_openedOn indexed directory]
    simp [Journal.held, Journal.openedOn, Catalog.ofExisting, Catalog.takeAll]
  have records : ledger.stored = older := by
    rw [stored, none, List.append_nil]
  have same : (idle (Journal.openedOn policy disk) disk).opening = ledger.reopened policy := by
    have found : (closedItems disk journal.catalog.closed).filterMap entryOf? = older.reverse :=
      shelved.found
    have skipped := shelved.skipped
    ext1
    · simp only [Pipeline.opening, Ledger.reopened, idle, items, found, List.reverse_reverse,
        records]
    · simp only [Pipeline.opening, Ledger.reopened, idle, items, found, List.length_reverse,
        records]
    · rfl
    · simp [Pipeline.opening, Ledger.reopened, idle, Journal.openedOn, Buffer.ceiling, Buffer.new,
        Policy.ceiling, retains.fileEnabled]
    · simpa only [Pipeline.opening, Ledger.reopened, idle, items] using skipped
  rw [← same]
  exact (Journal.opened_openedOn indexed.tidy shelved.numbered).sound

end QueryJournal
