import QueryJournal.Journal.Basic
import QueryJournal.Proofs.Record.Line
import QueryJournal.Proofs.Search.Reference
import QueryJournal.Proofs.Storage.Disk

namespace QueryJournal

open QueryJournal.Backward
open QueryJournal.Search (entryOf? isSkipped itemsOf)
open QueryJournal.Storage
open QueryJournal.Utf8 (Bytes)

/-!
What a search finds in the files of a log. A file of lines that were written gives back their
entries, the last one first, and nothing else.
-/

def Entry.lines (entries : List Entry) : Bytes :=
  entries.flatMap Entry.line

variable {disk after : Disk} {target : ScanTarget} {segment : Segment} {segments : List Segment}
  {entries : List Entry} {content : Bytes} {limit : Option Nat}

theorem Entry.lines_append (earlier later : List Entry) :
    Entry.lines (earlier ++ later) = Entry.lines earlier ++ Entry.lines later :=
  List.flatMap_append

theorem Entry.lines_ne_nil (some : entries ≠ []) :
    Entry.lines entries ≠ [] := by
  obtain ⟨entry, rest, rfl⟩ := List.exists_cons_of_ne_nil some
  rw [Entry.lines, List.flatMap_cons, Entry.line, List.append_assoc]
  exact List.append_ne_nil_of_right_ne_nil _ (List.cons_ne_nil _ _)

theorem Entry.pieces_lines (entries : List Entry) :
    pieces (Entry.lines entries) = entries.map Entry.lineBody := by
  have split : (Entry.lines entries).splitOn Backward.newline =
      entries.map Entry.lineBody ++ [[]] := Entry.splitOn_flatMap_line entries
  rw [pieces, split]
  exact Entry.filter_map_lineBody entries

theorem Entry.items_lines (short : ∀ entry ∈ entries, entry.lineBody.length ≤ maxLineLength)
    (whole : Reader.counted content limit = Entry.lines entries) :
    (Reader.ofContent content limit).items =
      entries.reverse.map fun entry => .line entry.lineBody := by
  have bounded : ∀ line ∈ pieces (Reader.counted content limit), line.length ≤ maxLineLength := by
    rw [whole, Entry.pieces_lines]
    intro line member
    obtain ⟨entry, present, rfl⟩ := List.mem_map.mp member
    exact short entry present
  rw [Reader.items_of_short bounded, whole, Entry.pieces_lines, ← List.map_reverse, List.map_map]
  rfl

theorem Entry.filterMap_lineItems (entries : List Entry) :
    (entries.map fun entry => Backward.Item.line entry.lineBody).filterMap entryOf? =
      entries := by
  induction entries with
  | nil => rfl
  | cons entry entries ih =>
      have read : entryOf? (.line entry.lineBody) = some entry := entry.ofLine?_lineBody
      rw [List.map_cons, List.filterMap_cons_some read, ih]

theorem Entry.countP_lineItems (entries : List Entry) :
    (entries.map fun entry => Backward.Item.line entry.lineBody).countP isSkipped = 0 := by
  rw [List.countP_eq_zero]
  intro item member
  obtain ⟨entry, _, rfl⟩ := List.mem_map.mp member
  have read : entryOf? (.line entry.lineBody) = some entry := entry.ofLine?_lineBody
  simp [isSkipped, read]

/-!
### Targets of a search
-/

/-- The items of closed segments, the newest one first. -/
def closedItems (disk : Disk) (closed : List Segment) : List Backward.Item :=
  closed.reverse.flatMap fun segment =>
    itemsOf (Journal.reader? disk { segment, limit := none })

/-- What a search opens depends on nothing but what the name stands for. -/
theorem reader?_congr (same : after.find? target.segment.name = disk.find? target.segment.name) :
    Journal.reader? after target = Journal.reader? disk target := by
  rw [Journal.reader?, Journal.reader?, same]

theorem reader?_file {identity : Nat}
    (found : disk.find? target.segment.name = some (.file identity content)) :
    Journal.reader? disk target = some (.ofContent content target.limit) := by
  rw [Journal.reader?, found]

theorem items_ofUnreadable : Reader.ofUnreadable.items = [] := by
  have next : Reader.ofUnreadable.next = (some .unreadable, Reader.ofUnreadable) := by
    rw [Reader.next]
    rfl
  exact Reader.items_of_unreadable next

theorem closedItems_congr
    (same : ∀ segment ∈ segments, after.find? segment.name = disk.find? segment.name) :
    closedItems after segments = closedItems disk segments := by
  simp only [closedItems]
  refine List.flatMap_congr fun segment member => ?_
  have alike : Journal.reader? after { segment, limit := none } =
      Journal.reader? disk { segment, limit := none } :=
    reader?_congr (same segment (List.mem_reverse.mp member))
  rw [alike]

theorem closedItems_append (disk : Disk) (older newer : List Segment) :
    closedItems disk (older ++ newer) = closedItems disk newer ++ closedItems disk older := by
  rw [closedItems, List.reverse_append, List.flatMap_append]
  rfl

end QueryJournal
