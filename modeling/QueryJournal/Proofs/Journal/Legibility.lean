import QueryJournal.Proofs.Journal.Growth

namespace QueryJournal

open QueryJournal.Backward (Reader chunkLength maxLineLength)
open QueryJournal.Backward.Reader (Reports counted)
open QueryJournal.Document (Value)
open QueryJournal.Search (Clock Request entryOf? itemsOf)
open QueryJournal.Storage
open QueryJournal.Utf8 (Bytes)

/-!
What a search reads of lines of any length. Whoever writes a line does not ask how long it is, but
whoever reads it does: a line that is longer than the longest that is put together is passed over.
So the records of a batch are found as far as their lines are short enough.
-/

/-!
### How long a line is
-/

theorem Text.length_le_length_flatMap {α β : Type} {write : α → List β}
    (nonempty : ∀ item, write item ≠ []) (items : List α) :
    items.length ≤ (items.flatMap write).length := by
  rw [List.length_flatMap, ← List.length_map fun item => (write item).length]
  refine List.length_le_sum_of_one_le _ fun length member => ?_
  obtain ⟨item, _, rfl⟩ := List.mem_map.mp member
  exact List.length_pos_iff.mpr (nonempty item)

theorem Json.length_le_length_literal (text : String) : text.length ≤ (literal text).length := by
  have written : ∀ c, escapedChar c ≠ [] := by
    intro c
    simp only [escapedChar]
    repeat' split
    all_goals simp
  have inside := Text.length_le_length_flatMap written text.toList
  rw [String.length_toList] at inside
  rw [literal, List.length_append, List.length_append]
  omega

theorem Json.length_render_le_renderMembers {members : List (String × Value)} {name : String}
    {value : Value} (present : (name, value) ∈ members) :
    (render value).length ≤ (renderMembers members).length := by
  induction members with
  | nil => cases present
  | cons first members ih =>
      simp only [renderMembers, List.length_append]
      rcases List.mem_cons.mp present with rfl | present
      · dsimp only
        omega
      · have inside := ih present
        omega

theorem Json.length_render_le_table {members : List (String × Value)} {name : String}
    {value : Value} (present : (name, value) ∈ members) :
    (render value).length ≤ (render (.table members)).length := by
  cases members with
  | nil => cases present
  | cons first members =>
      simp only [render, List.length_append]
      rcases List.mem_cons.mp present with rfl | present
      · dsimp only
        omega
      · have inside := length_render_le_renderMembers present
        omega

/-- A line is at least as long as the name that a client gives itself. -/
theorem Entry.length_clientId_le {entry : Entry} {client : String}
    (given : entry.clientId = some client) : client.length ≤ entry.lineBody.length := by
  have written : ∀ c, Utf8.encodeChar c ≠ [] := by
    intro c
    simp only [Utf8.encodeChar]
    repeat' split
    all_goals simp
  have own : ("cid", Value.text client) ∈
      Verdict.optionalMember "cid" (entry.clientId.map .text) := by
    simp [given, Verdict.optionalMember]
  calc client.length
    _ ≤ (Json.render (.text client)).length := Json.length_le_length_literal client
    _ ≤ (Json.render entry.toValue).length := by
      refine @Json.length_render_le_table _ "cid" (.text client) ?_
      simp [own]
    _ ≤ entry.lineBody.length := Text.length_le_length_flatMap written _

/-!
### What is read of lines
-/

namespace Entry

variable {entries batch earlier later : List Entry} {items : List Backward.Item}

/-- Whether the line is found, however it lies in the chunks of its file. -/
def isLegible (entry : Entry) : Bool :=
  entry.lineBody.length ≤ maxLineLength

/-- Whether the line can be found at all. One that is too long is, if its end is read before its
length is looked at. -/
def mayBeRead (entry : Entry) : Bool :=
  entry.lineBody.length < maxLineLength + chunkLength

/-- What is found of entries stands in their order. No legible one is missing, and none is there
whose line is too long by a whole chunk. -/
def Recovers (entries found : List Entry) : Prop :=
  (entries.filter isLegible).Sublist found ∧ found.Sublist (entries.filter mayBeRead)

theorem recovers_of_reports (reports : List.Forall₂ Reports (entries.map lineBody) items) :
    Recovers entries (items.filterMap entryOf?) := by
  induction entries generalizing items with
  | nil =>
      cases reports
      exact ⟨.slnil, .slnil⟩
  | cons entry entries ih =>
      cases reports with
      | @cons _ item _ items report reports =>
          obtain ⟨least, most⟩ := ih reports
          cases item with
          | line bytes =>
              obtain ⟨rfl, bound⟩ := report
              have read : entryOf? (.line entry.lineBody) = some entry := entry.ofLine?_lineBody
              have may : entry.mayBeRead = true := decide_eq_true bound
              rw [List.filterMap_cons_some read, Recovers, List.filter_cons_of_pos may]
              refine ⟨?_, most.cons_cons entry⟩
              rw [List.filter_cons]
              split
              · exact least.cons_cons entry
              · exact least.cons entry
          | oversized length =>
              have long : ¬ entry.isLegible = true := by
                rw [isLegible, decide_eq_true_eq, Nat.not_le]
                exact report
              rw [List.filterMap_cons_none rfl, Recovers, List.filter_cons_of_neg long]
              refine ⟨least, ?_⟩
              rw [List.filter_cons]
              split
              · exact most.cons entry
              · exact most
          | unreadable => exact report.elim

/-- Of a batch that lies between others in a file its records are found together. -/
theorem recovers_between
    (reports : List.Forall₂ Reports ((earlier ++ batch ++ later).map lineBody) items) :
    ∃ found, found <:+: items.filterMap entryOf? ∧ Recovers batch found := by
  rw [List.append_assoc, List.map_append, List.map_append] at reports
  have behind := List.forall₂_drop_append items (earlier.map lineBody) _ reports.flip
  have middle := List.forall₂_take_append _ (batch.map lineBody) _ behind
  rw [List.length_map, List.length_map] at middle
  refine ⟨_, List.IsInfix.filterMap entryOf? ?_, recovers_of_reports middle.flip⟩
  exact (List.take_prefix _ _).isInfix.trans (List.drop_suffix _ _).isInfix

/-- Reading a file of lines backwards finds the records of a batch in the opposite order. -/
theorem recovers_items {content : Bytes} {limit : Option Nat}
    (whole : counted content limit = lines (earlier ++ batch ++ later)) :
    ∃ found, found <:+: (Reader.ofContent content limit).items.filterMap entryOf? ∧
      Recovers batch.reverse found := by
  have reports := Reader.items_ofContent content limit
  rw [whole, pieces_lines, ← List.map_reverse, List.reverse_append, List.reverse_append,
    ← List.append_assoc] at reports
  exact recovers_between reports

end Entry

namespace Archive

variable {start : Disk} {archive : Archive} {segment : Segment} {batch : List Entry}

/-- The records of a batch lie next to each other in the file of a segment. -/
def Lies (segment : Segment) (batch : List Entry) (disk : Disk) : Prop :=
  ∃ identity earlier later,
    disk.find? segment.name = some (.file identity (Entry.lines (earlier ++ batch ++ later)))

/-- All records that can be found, newest first. -/
def readable (archive : Archive) : List Entry :=
  archive.journal.buffer.snapshot ++
    ((archive.journal.files archive.disk).flatMap itemsOf).filterMap entryOf?

/-- A search for everything answers, and finds the records of a batch together, the last one first,
as far as their lines are not too long. -/
def Finds (archive : Archive) (batch : List Entry) : Prop :=
  ∀ (clock : Clock) (request : Request), request.Unbounded archive.readable.length →
    ∃ report, archive.journal.search clock request archive.disk = .ok report ∧
      ∃ found, found <:+: report.page.entries ∧ Entry.Recovers batch.reverse found

/-- A search for everything answers all records that can be found. -/
theorem search_readable (going : archive.journal.closed = false) (clock : Clock)
    {request : Request} (unbounded : request.Unbounded archive.readable.length) :
    ∃ report, archive.journal.search clock request archive.disk = .ok report ∧
      report.page.entries = archive.readable := by
  refine ⟨_, if_neg (ne_true_of_eq_false going), ?_⟩
  rw [Search.page_run_unbounded clock _ _ rfl unbounded]
  rfl

/-- A search reads the whole file of each segment that is listed. -/
theorem Coherent.exists_target (coherent : Coherent start archive)
    (listed : segment ∈ archive.journal.held) {identity : Nat} {content : Bytes}
    (placed : archive.disk.find? segment.name = some (.file identity content)) :
    ∃ target ∈ archive.journal.catalog.scanPlan, target.segment = segment ∧
      counted content target.limit = content := by
  rcases List.mem_append.mp listed with closed | current
  · refine ⟨{ segment, limit := none }, List.mem_append_right _ ?_, rfl, rfl⟩
    exact List.mem_map_of_mem (List.mem_reverse.mpr closed)
  · rw [Option.mem_toList, Option.map_eq_some_iff] at current
    obtain ⟨active, present, rfl⟩ := current
    obtain ⟨writer, attached⟩ := coherent.writer_of_active present
    have own : identity = writer.identity := by
      obtain ⟨_, there⟩ := attached.placed
      rw [attached.same, placed, Option.some.injEq, Node.file.injEq] at there
      exact there.1
    have length : content.length = active.committed :=
      (attached.length _ content (own ▸ placed)).trans attached.committed.symm
    refine ⟨{ segment := active.segment, limit := some active.committed },
      List.mem_append_left _ ?_, rfl, ?_⟩
    · rw [present]
      exact List.mem_singleton_self _
    · rw [counted, ← length, List.take_length]

theorem Coherent.finds (coherent : Coherent start archive)
    (going : archive.journal.closed = false)
    (files : archive.journal.policy.fileEnabled = true) (listed : segment ∈ archive.journal.held)
    (lies : Lies segment batch archive.disk) : archive.Finds batch := by
  obtain ⟨identity, earlier, later, placed⟩ := lies
  obtain ⟨target, planned, rfl, whole⟩ := coherent.exists_target listed placed
  obtain ⟨found, inside, recovers⟩ := Entry.recovers_items whole
  intro clock request unbounded
  obtain ⟨report, answered, entries⟩ := search_readable going clock unbounded
  refine ⟨report, answered, found, ?_, recovers⟩
  have one := (List.singleton_infix_iff _ _).mpr planned
  have read := (one.flatMap fun target =>
    itemsOf (Journal.reader? archive.disk target)).filterMap entryOf?
  rw [List.flatMap_singleton, reader?_file placed] at read
  rw [entries, readable, Journal.files, if_pos files, List.flatMap_map]
  exact (inside.trans read).trans (List.suffix_append _ _).isInfix

/-- Where one segment is all there is, no more can be found than what its file holds. -/
theorem Coherent.recovers_readable {entries : List Entry} {identity : Nat}
    (coherent : Coherent start archive) (files : archive.journal.policy.fileEnabled = true)
    (empty : archive.journal.buffer.entries = #[]) (alone : archive.journal.held = [segment])
    (placed : archive.disk.find? segment.name = some (.file identity (Entry.lines entries))) :
    Entry.Recovers entries.reverse archive.readable := by
  have listed : segment ∈ archive.journal.held := by
    rw [alone]
    exact List.mem_singleton_self _
  obtain ⟨target, planned, rfl, whole⟩ := coherent.exists_target listed placed
  have one : archive.journal.catalog.scanPlan = [target] := by
    have plan := archive.journal.catalog.map_segment_scanPlan
    rw [← Journal.held, alone, List.reverse_singleton, List.map_eq_singleton_iff] at plan
    obtain ⟨only, plan, _⟩ := plan
    rw [plan, List.mem_singleton] at planned
    rw [plan, planned]
  have reports := Reader.items_ofContent (Entry.lines entries) target.limit
  rw [whole, Entry.pieces_lines, ← List.map_reverse] at reports
  rw [readable, Buffer.snapshot, empty, Journal.files, if_pos files, one]
  simpa [reader?_file placed, itemsOf] using Entry.recovers_of_reports reports

end Archive

end QueryJournal
