import QueryJournal.Proofs.Journal.Pipeline
import QueryJournal.Proofs.Segment.Writer

namespace QueryJournal

open QueryJournal.Backward
open QueryJournal.Search (entryOf? isSkipped itemsOf)
open QueryJournal.Storage
open QueryJournal.Utf8 (Bytes)

/-!
The files of a log while something is under way. Closed segments hold the older records and do not
change. The file of the active one starts with the records that count, and what stands behind them
is a part of the batch under way at most.
-/

namespace Phase

def batch : Phase → List Entry
  | .idle => []
  | .taken batch => batch
  | .numbered batch _ => batch
  | .made batch => batch
  | .writing batch => batch
  | .landed batch => batch
  | .failed batch => batch
  | .clearing _ => []

/-- What may stand in the active file behind the records that count. -/
def MayLeave : Phase → Bytes → Prop
  | .writing batch, rest => rest <+: Entry.lines batch
  | .landed batch, rest => rest = Entry.lines batch
  | _, rest => rest = []

def ahead : Phase → Nat
  | .landed batch => (Entry.lines batch).length
  | _ => 0

def Allows : Phase → Option SegmentWriter → Prop
  | .numbered .., writer => writer = none
  | .clearing _, writer => writer = none
  | .made _, writer => writer.isSome
  | .writing _, writer => writer.isSome
  | .landed _, writer => writer.isSome
  | _, _ => True

/-- Whether the file of a segment is made and the index does not know of it yet. -/
def isMade : Phase → Bool
  | .made _ => true
  | _ => false

def isClearing : Phase → Bool
  | .clearing _ => true
  | _ => false

def IsQuiet (phase : Phase) : Prop :=
  phase.ahead = 0 ∧ phase.isMade = false ∧ ∀ rest, phase.MayLeave rest ↔ rest = []

theorem isQuiet_idle : Phase.idle.IsQuiet :=
  ⟨rfl, rfl, fun _ => Iff.rfl⟩

theorem isQuiet_taken (batch : List Entry) : (Phase.taken batch).IsQuiet :=
  ⟨rfl, rfl, fun _ => Iff.rfl⟩

theorem isQuiet_numbered (batch : List Entry) (segment : Segment) :
    (Phase.numbered batch segment).IsQuiet :=
  ⟨rfl, rfl, fun _ => Iff.rfl⟩

theorem isQuiet_failed (batch : List Entry) : (Phase.failed batch).IsQuiet :=
  ⟨rfl, rfl, fun _ => Iff.rfl⟩

theorem isQuiet_clearing (segments : List Segment) : (Phase.clearing segments).IsQuiet :=
  ⟨rfl, rfl, fun _ => Iff.rfl⟩

end Phase

/-- The file that is open: it starts with the records that count, and no closed segment is the
same file. -/
structure Front (current : List Entry) (catalog : Catalog) (disk : Disk) (phase : Phase)
    (writer : SegmentWriter) : Prop where
  active : catalog.active =
    if phase.isMade then none
    else some { segment := writer.segment, committed := (Entry.lines current).length }
  length : writer.length = (Entry.lines current).length + phase.ahead
  content : ∃ rest, phase.MayLeave rest ∧
    disk.find? writer.segment.name =
      some (.file writer.identity (Entry.lines current ++ rest))
  apart : ∀ segment ∈ catalog.closed, ∀ content,
    disk.find? segment.name ≠ some (.file writer.identity content)
  fresh : phase.isMade = true → current = []

/-- The files of a log: closed segments with the older records and some lines that hold none, and
the current records in the segment that is open. -/
structure Shelved (older current : List Entry) (unread : Nat) (catalog : Catalog)
    (writer : Option SegmentWriter) (disk : Disk) (phase : Phase) : Prop where
  numbered : disk.Numbered
  present : ∀ segment ∈ catalog.closed, ∃ node, disk.find? segment.name = some node
  found : (closedItems disk catalog.closed).filterMap entryOf? = older.reverse
  skipped : (closedItems disk catalog.closed).countP isSkipped = unread
  allowed : phase.Allows writer
  emptied : phase.isClearing = true → catalog.closed = []
  shut : writer = none → current = [] ∧ catalog.active = none
  front : ∀ opened, writer = some opened → Front current catalog disk phase opened

namespace Shelved

variable {older current batch : List Entry} {unread : Nat} {catalog later : Catalog}
  {writer : Option SegmentWriter} {opened : SegmentWriter} {disk after : Disk}
  {phase next : Phase} {segment : Segment} {obstacles : Obstacles} {failure : Failure}

/-- Nothing changes for the files while only the phase goes on. -/
theorem rephase (shelved : Shelved older current unread catalog writer disk phase)
    (quiet : phase.IsQuiet) (still : next.IsQuiet) (closed : later.closed = catalog.closed)
    (active : later.active = catalog.active) (count : after.nextIdentity = disk.nextIdentity)
    (same : ∀ name, after.find? name = disk.find? name) (allowed : next.Allows writer)
    (emptied : next.isClearing = true → later.closed = []) :
    Shelved older current unread later writer after next := by
  have items : closedItems after catalog.closed = closedItems disk catalog.closed :=
    closedItems_congr fun segment _ => same segment.name
  refine
    { numbered := ?_
      present := ?_
      found := ?_
      skipped := ?_
      allowed
      emptied
      shut := ?_
      front := ?_ }
  · intro name identity content found
    rw [same] at found
    rw [count]
    exact shelved.numbered name identity content found
  · intro segment member
    rw [same]
    exact shelved.present segment (closed ▸ member)
  · rw [closed, items, shelved.found]
  · rw [closed, items, shelved.skipped]
  · rw [active]
    exact shelved.shut
  · intro opened present
    have front := shelved.front opened present
    obtain ⟨rest, left, content⟩ := front.content
    exact
      { active := by rw [active, front.active, quiet.2.1, still.2.1]
        length := by rw [front.length, quiet.1, still.1]
        content := ⟨rest, (still.2.2 rest).mpr ((quiet.2.2 rest).mp left), by rw [same, content]⟩
        apart := by
          intro segment member content
          rw [same]
          exact front.apart segment (closed ▸ member) content
        fresh := by simp [still.2.1] }

/-- What is written to the open file leaves the closed ones as they are. -/
theorem find?_closed (shelved : Shelved older current unread catalog (some opened) disk phase)
    (change : Bytes → Bytes) : ∀ segment ∈ catalog.closed,
      (disk.modify opened.identity change).find? segment.name = disk.find? segment.name :=
  fun segment member =>
    Disk.find?_modify_other ((shelved.front opened rfl).apart segment member)

theorem numbered_modify (numbered : disk.Numbered) (identity : Nat) (change : Bytes → Bytes) :
    (disk.modify identity change).Numbered := by
  intro name owner content found
  rw [Disk.find?_modify] at found
  cases before : disk.find? name with
  | none => simp [before] at found
  | some node =>
      cases node with
      | directory => simp [before, Node.modified] at found
      | file other earlier =>
          simp only [before, Option.map_some, Node.modified, Option.some.injEq,
            Node.file.injEq] at found
          exact found.1 ▸ numbered name other earlier before

theorem write {longer : SegmentWriter} {change : Bytes → Bytes}
    (shelved : Shelved older current unread catalog (some opened) disk phase)
    (known : phase.isMade = false) (still : next.isMade = false)
    (open? : next.Allows (some longer)) (going : next.isClearing = false)
    (name : longer.segment = opened.segment) (owner : longer.identity = opened.identity)
    (length : longer.length = (Entry.lines current).length + next.ahead)
    (result : ∀ rest, phase.MayLeave rest → ∃ left, next.MayLeave left ∧
      change (Entry.lines current ++ rest) = Entry.lines current ++ left) :
    Shelved older current unread catalog (some longer) (disk.modify opened.identity change)
      next := by
  have front := shelved.front opened rfl
  have same := shelved.find?_closed change
  have items := closedItems_congr same
  obtain ⟨rest, left, content⟩ := front.content
  obtain ⟨behind, allowed, changed⟩ := result rest left
  refine
    { numbered := numbered_modify shelved.numbered _ _
      present := ?_
      found := by rw [items, shelved.found]
      skipped := by rw [items, shelved.skipped]
      allowed := open?
      emptied := by simp [going]
      shut := nofun
      front := ?_ }
  · intro segment member
    rw [same segment member]
    exact shelved.present segment member
  · rintro _ ⟨rfl⟩
    refine
      { active := by rw [front.active, known, still, name]
        length
        content := ⟨behind, allowed, ?_⟩
        apart := ?_
        fresh := by simp [still] }
    · rw [name, owner, Disk.find?_modify_self content, changed]
    · intro segment member content
      rw [same segment member, owner]
      exact front.apart segment member content

/-!
### The steps of a flush
-/

theorem make (shelved : Shelved older current unread catalog none disk (.numbered batch segment))
    (made : SegmentWriter.create obstacles disk segment false = (.ok opened, after)) :
    Shelved older current unread catalog (some opened) after (.made batch) := by
  obtain ⟨none, inactive⟩ := shelved.shut rfl
  obtain ⟨rfl, count, free, found, others⟩ := SegmentWriter.create_ok made
  have same : ∀ closed ∈ catalog.closed, after.find? closed.name = disk.find? closed.name := by
    intro closed member
    refine others closed.name fun taken => ?_
    obtain ⟨node, present⟩ := shelved.present closed member
    rw [taken, free] at present
    contradiction
  have items := closedItems_congr same
  refine
    { numbered := ?_
      present := ?_
      found := by rw [items, shelved.found]
      skipped := by rw [items, shelved.skipped]
      allowed := rfl
      emptied := nofun
      shut := nofun
      front := ?_ }
  · intro name owner content placed
    rw [count]
    by_cases new : name = segment.name
    · rw [new, found] at placed
      cases placed
      omega
    · rw [others name new] at placed
      have earlier := shelved.numbered name owner content placed
      omega
  · intro closed member
    rw [same closed member]
    exact shelved.present closed member
  · rintro _ ⟨rfl⟩
    refine
      { active := inactive
        length := by simp [none, Entry.lines, Phase.ahead]
        content := ⟨[], rfl, by simp [none, Entry.lines, found]⟩
        apart := ?_
        fresh := fun _ => none }
    intro closed member content placed
    rw [same closed member] at placed
    have earlier : disk.nextIdentity < disk.nextIdentity := shelved.numbered _ _ _ placed
    omega

/-- A segment whose file cannot be made leaves everything as it is. -/
theorem refuse (shelved : Shelved older current unread catalog none disk (.numbered batch segment))
    (refused : SegmentWriter.create obstacles disk segment false = (.error failure, after)) :
    Shelved older current unread catalog none after (.failed batch) := by
  obtain ⟨count, same⟩ := SegmentWriter.create_error refused
  exact shelved.rephase (Phase.isQuiet_numbered batch segment) (Phase.isQuiet_failed batch) rfl rfl
    count same trivial nofun

theorem activate (shelved : Shelved older current unread catalog (some opened) disk (.made batch)) :
    Shelved older current unread (catalog.activate opened.segment) (some opened) disk
      (.writing batch) := by
  have front := shelved.front opened rfl
  have none := front.fresh rfl
  obtain ⟨rest, left, content⟩ := front.content
  exact
    { numbered := shelved.numbered
      present := shelved.present
      found := shelved.found
      skipped := shelved.skipped
      allowed := rfl
      emptied := nofun
      shut := nofun
      front := by
        rintro _ ⟨rfl⟩
        exact
          { active := by simp [Catalog.activate, none, Entry.lines, Phase.isMade]
            length := front.length
            content := ⟨rest, left ▸ List.nil_prefix, content⟩
            apart := front.apart
            fresh := nofun } }

theorem resume (shelved : Shelved older current unread catalog (some opened) disk (.taken batch)) :
    Shelved older current unread catalog (some opened) disk (.writing batch) := by
  have front := shelved.front opened rfl
  obtain ⟨rest, left, content⟩ := front.content
  exact
    { numbered := shelved.numbered
      present := shelved.present
      found := shelved.found
      skipped := shelved.skipped
      allowed := rfl
      emptied := nofun
      shut := nofun
      front := by
        rintro _ ⟨rfl⟩
        exact
          { active := front.active
            length := front.length
            content := ⟨rest, left ▸ List.nil_prefix, content⟩
            apart := front.apart
            fresh := nofun } }

/-- A part of a text written over the start of another part of it gives a part of it. -/
theorem prefix_of_take {bytes rest : Bytes} (part : rest <+: bytes) (count : Nat) :
    bytes.take count ++ rest.drop (bytes.take count).length <+: bytes := by
  rcases Nat.le_total rest.length (bytes.take count).length with shorter | longer
  · rw [List.drop_of_length_le shorter, List.append_nil]
    exact List.take_prefix count bytes
  · have inside := List.prefix_of_prefix_length_le (List.take_prefix count bytes) part longer
    obtain ⟨more, whole⟩ := inside
    have remaining : rest.drop (bytes.take count).length = more := by
      rw [← whole, List.drop_left]
    rw [remaining, whole]
    exact part

theorem grow (shelved : Shelved older current unread catalog (some opened) disk (.writing batch))
    (obstacles : Obstacles) :
    Shelved older current unread catalog (some opened)
      (opened.writePart obstacles disk (Entry.lines batch)) (.writing batch) := by
  have length : opened.length = (Entry.lines current).length := (shelved.front opened rfl).length
  refine shelved.write rfl rfl rfl rfl rfl rfl length fun rest part => ?_
  exact ⟨_, prefix_of_take part _, by rw [length, Disk.overwritten_append]⟩

theorem land (shelved : Shelved older current unread catalog (some opened) disk (.writing batch))
    (whole : opened.succeeds obstacles (Entry.lines batch) = true) :
    Shelved older current unread catalog
      (some { opened with length := opened.length + (Entry.lines batch).length })
      (opened.writePart obstacles disk (Entry.lines batch)) (.landed batch) := by
  have length : opened.length = (Entry.lines current).length := (shelved.front opened rfl).length
  have reached : opened.reach obstacles (Entry.lines batch) = (Entry.lines batch).length := by
    simp only [SegmentWriter.succeeds, Bool.and_eq_true, beq_iff_eq] at whole
    exact whole.1
  refine shelved.write rfl rfl rfl rfl rfl rfl (by rw [length]; rfl) fun rest part => ?_
  refine ⟨Entry.lines batch, rfl, ?_⟩
  rw [length, reached, List.take_length, Disk.overwritten_append,
    List.drop_of_length_le (List.IsPrefix.length_le part), List.append_nil]

/-- Cutting the file back to what counts is never refused. -/
theorem cutBack (shelved : Shelved older current unread catalog (some opened) disk (.writing batch))
    (obstacles : Obstacles) :
    Shelved older current unread catalog (some opened) (opened.rollBack obstacles disk)
      (.failed batch) := by
  have length : opened.length = (Entry.lines current).length := (shelved.front opened rfl).length
  refine shelved.write rfl rfl trivial rfl rfl rfl length fun rest part => ⟨[], rfl, ?_⟩
  have allowed : obstacles.refusesResize (Entry.lines current ++ rest).length opened.length =
      false := by
    have longer : ¬ (Entry.lines current ++ rest).length < opened.length := by
      rw [List.length_append, length]
      omega
    rw [Obstacles.refusesResize, decide_eq_false longer, Bool.false_and]
  rw [if_neg (ne_true_of_eq_false allowed), length, Disk.resized_append, List.append_nil]

theorem commit (shelved : Shelved older current unread catalog (some opened) disk (.landed batch)) :
    Shelved older (current ++ batch) unread (catalog.commit opened.length) (some opened) disk
      .idle := by
  have front := shelved.front opened rfl
  obtain ⟨rest, left, content⟩ := front.content
  have length : (Entry.lines (current ++ batch)).length = opened.length := by
    rw [Entry.lines_append, List.length_append]
    exact front.length.symm
  exact
    { numbered := shelved.numbered
      present := shelved.present
      found := shelved.found
      skipped := shelved.skipped
      allowed := trivial
      emptied := nofun
      shut := nofun
      front := by
        rintro _ ⟨rfl⟩
        refine
          { active := ?_
            length := length.symm
            content := ⟨[], rfl, ?_⟩
            apart := front.apart
            fresh := nofun }
        · simp [Catalog.commit, front.active, length, Phase.isMade]
        · rw [content, left, Entry.lines_append, List.append_nil] }

/-!
### Closing and clearing
-/

theorem items_front (front : Front current catalog disk phase opened)
    (short : ∀ entry ∈ current, entry.lineBody.length ≤ maxLineLength) {limit : Option Nat}
    (bound : limit = some (Entry.lines current).length ∨ (limit = none ∧ phase.IsQuiet)) :
    itemsOf (Journal.reader? disk { segment := opened.segment, limit }) =
      current.reverse.map fun entry => .line entry.lineBody := by
  obtain ⟨rest, left, content⟩ := front.content
  have read : Journal.reader? disk { segment := opened.segment, limit } =
      some (.ofContent (Entry.lines current ++ rest) limit) := reader?_file content
  rw [read]
  refine Entry.items_lines short ?_
  rcases bound with rfl | ⟨rfl, quiet⟩
  · exact List.take_left
  · rw [(quiet.2.2 rest).mp left, List.append_nil]
    rfl

/-- The active segment becomes the newest one of the closed. -/
theorem close (shelved : Shelved older current unread catalog writer disk .idle)
    (short : ∀ entry ∈ current, entry.lineBody.length ≤ maxLineLength) :
    Shelved (older ++ current) [] unread catalog.closeActive.2 none disk .idle := by
  cases present : writer with
  | none =>
      obtain ⟨none, inactive⟩ := shelved.shut present
      have same : catalog.closeActive.2 = catalog := by
        rw [Catalog.closeActive, inactive]
      rw [same, none, List.append_nil]
      exact none ▸ present ▸ shelved
  | some opened =>
      have front := shelved.front opened present
      have active : catalog.active =
          some { segment := opened.segment, committed := (Entry.lines current).length } :=
        front.active
      have closed : catalog.closeActive.2.closed = catalog.closed ++ [opened.segment] := by
        rw [Catalog.closeActive, active]
      have inactive : catalog.closeActive.2.active = none := by
        rw [Catalog.closeActive, active]
      have last : closedItems disk [opened.segment] =
          current.reverse.map fun entry => .line entry.lineBody := by
        have items := items_front front short (.inr ⟨rfl, Phase.isQuiet_idle⟩)
        simpa [closedItems] using items
      have items : closedItems disk catalog.closeActive.2.closed =
          (current.reverse.map fun entry => .line entry.lineBody) ++
            closedItems disk catalog.closed := by
        rw [closed, closedItems_append, last]
      refine
        { numbered := shelved.numbered
          present := ?_
          found := ?_
          skipped := ?_
          allowed := trivial
          emptied := by simp [Phase.isClearing]
          shut := fun _ => ⟨rfl, inactive⟩
          front := by simp }
      · intro segment member
        rw [closed, List.mem_append, List.mem_singleton] at member
        rcases member with earlier | rfl
        · exact shelved.present segment earlier
        · obtain ⟨rest, _, content⟩ := front.content
          exact ⟨_, content⟩
      · rw [items, List.filterMap_append, Entry.filterMap_lineItems, shelved.found,
          List.reverse_append]
      · rw [items, List.countP_append, Entry.countP_lineItems, shelved.skipped, Nat.zero_add]

theorem clear (shelved : Shelved older current unread catalog writer disk phase)
    (segments : List Segment) :
    Shelved [] [] 0 catalog.takeAll.2 none disk (.clearing segments) :=
  { numbered := shelved.numbered
    present := by simp [Catalog.takeAll]
    found := rfl
    skipped := rfl
    allowed := rfl
    emptied := fun _ => rfl
    shut := fun _ => ⟨rfl, rfl⟩
    front := by simp }

theorem remove {segments rest : List Segment}
    (shelved : Shelved older current unread catalog writer disk (.clearing segments))
    (obstacles : Obstacles) (name : String) :
    Shelved older current unread catalog writer (disk.remove obstacles name).2 (.clearing rest) := by
  have empty := shelved.emptied rfl
  have shut := shelved.shut shelved.allowed
  have found := shelved.found
  have skipped := shelved.skipped
  rw [empty] at found skipped
  refine
    { numbered := ?_
      present := by simp [empty]
      found := by rw [empty]; exact found
      skipped := by rw [empty]; exact skipped
      allowed := shelved.allowed
      emptied := fun _ => empty
      shut := fun _ => shut
      front := by simp [show writer = none from shelved.allowed] }
  intro other identity content placed
  rw [Disk.nextIdentity_remove]
  by_cases same : other = name
  · rw [same] at placed
    rcases Disk.find?_remove_self obstacles disk name with kept | gone
    · rw [kept] at placed
      exact shelved.numbered name identity content placed
    · rw [gone] at placed
      contradiction
  · rw [Disk.find?_remove_ne obstacles disk same] at placed
    exact shelved.numbered other identity content placed

end Shelved

end QueryJournal
