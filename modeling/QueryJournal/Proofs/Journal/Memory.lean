import Mathlib.Data.List.DropRight
import QueryJournal.Proofs.Journal.Bookkeeping
import QueryJournal.Proofs.Journal.Chronicle
import QueryJournal.Proofs.Search.Reference
import QueryJournal.Proofs.Settings.Policy

namespace QueryJournal

open QueryJournal.Search (Clock Request kept_of_no_conditions pageOf reflects_start)
open QueryJournal.Storage

/-!
A log that does not record to files. Its memory is all that it has: the last records stay there, as
many as there is room for, until they are cleared, and the directory is left to itself.
-/

theorem Settings.check_ok {settings : Settings} {policy : Policy}
    (valid : settings.check = .ok policy) :
    policy.enabled = settings.enabled ∧ policy.fileEnabled = settings.fileEnabled ∧
      policy.memorySize = settings.memorySize ∧ 0 < settings.memorySize := by
  obtain ⟨sound, rfl⟩ := check_eq_ok_iff.mp valid
  exact ⟨rfl, rfl, rfl, sound.memory⟩

theorem Buffer.toList_append_rtake {α : Type} {buffer : Buffer α} {entries : List α}
    (free : buffer.inFlight = 0) (room : 0 < buffer.ceiling)
    (contents : buffer.entries.toList = entries.rtake buffer.ceiling) (entry : α) :
    (buffer.append entry).2.entries.toList = (entries ++ [entry]).rtake buffer.ceiling := by
  have few : (entries.rtake buffer.ceiling).length ≤ buffer.ceiling := by
    rw [List.rtake, List.length_drop]
    omega
  have whole : buffer.entries.toList = [] ++ entries.rtake buffer.ceiling := contents
  have held := (toList_performAll_appends whole free room few [entry]).1
  have dropped : entries.rtake buffer.ceiling ++ [entry] =
      (entries ++ [entry]).drop (entries.length - buffer.ceiling) := by
    rw [List.drop_append_of_le_length (Nat.sub_le _ _), List.rtake]
  refine held.trans ?_
  rw [List.nil_append]
  refine (congrArg (List.rtake · _) dropped).trans ?_
  by_cases full : buffer.ceiling ≤ entries.length
  · apply rtake_drop
    rw [List.length_append, List.length_singleton]
    omega
  · rw [Nat.sub_eq_zero_of_le (Nat.le_of_not_le full), List.drop_zero]

namespace Archive

variable {policy : Policy} {disk : Disk} {records : List Entry} {archive : Archive} {deed : Deed}
  {deeds : List Deed}

/-- The records that came in since the last clear. -/
def recordsAfter (policy : Policy) (records : List Entry) (deed : Deed) : List Entry :=
  match deed.operation with
  | .add exchange =>
    records ++ (exchange.record policy.masksClients deed.occasion.now).toOption.toList
  | .clear => []
  | _ => records

def recordsSince (policy : Policy) (deeds : List Deed) : List Entry :=
  deeds.foldl (recordsAfter policy) []

/-- The last of some records are in memory, as many as there is room for. There is no segment. -/
structure Remembers (policy : Policy) (disk : Disk) (records : List Entry) (archive : Archive) :
    Prop where
  unfiled : Unfiled archive
  settings : archive.journal.policy = policy
  going : archive.journal.closed = false
  disk : archive.disk = disk
  free : archive.journal.buffer.inFlight = 0
  ceiling : archive.journal.buffer.ceiling = policy.memorySize
  contents : archive.journal.buffer.entries.toList = records.rtake policy.memorySize

theorem Remembers.openOn (unfiled : policy.fileEnabled = false) (room : 0 < policy.memorySize)
    (obstacles : Obstacles) (disk : Disk) :
    ∃ journal, Journal.openOn policy obstacles disk = (.ok journal, disk) ∧
      Remembers policy disk [] { journal, disk } := by
  refine ⟨_, openOn_unfiled_eq unfiled obstacles disk, ?_⟩
  exact
    { unfiled := ⟨unfiled, rfl⟩
      settings := rfl
      going := rfl
      disk := rfl
      free := rfl
      ceiling := Nat.max_eq_left room
      contents := List.rtake_nil _ |>.symm }

/-- Only a record that comes in and a clear change what is in memory. -/
theorem buffer_perform_unfiled (unfiled : Unfiled archive)
    (going : archive.journal.closed = false) (enabled : archive.journal.policy.enabled = true)
    (still : ∀ policy, deed.operation ≠ .reopen policy) :
    (archive.perform deed).journal.buffer =
      match deed.operation with
      | .add exchange =>
        match exchange.record archive.journal.policy.masksClients deed.occasion.now with
        | .ok entry => (archive.journal.buffer.append entry).2
        | .error _ => archive.journal.buffer
      | .clear => archive.journal.buffer.clear
      | _ => archive.journal.buffer := by
  obtain ⟨journal, disk⟩ := archive
  obtain ⟨occasion, operation⟩ := deed
  obtain ⟨off, _⟩ := unfiled
  cases operation with
  | add exchange =>
      change journal.policy.enabled = true at enabled
      change journal.closed = false at going
      simp only [perform, Journal.add, enabled, going, Bool.not_true, Bool.or_self,
        Bool.false_eq_true, ↓reduceIte]
      cases exchange.record journal.policy.masksClients occasion.now <;> rfl
  | flush force =>
      simp only [perform, Journal.flush, whileOpen_going going, serveFlush_unfiled journal off]
      rfl
  | rotate =>
      simp only [perform, Journal.rotate, whileOpen_going going, serveRotation_unfiled off]
      rfl
  | clear =>
      simp only [perform, Journal.clear, whileOpen_going going]
      rfl
  | flushBehind =>
      simp only [perform, serveFlush_unfiled journal off]
      rfl
  | rotateBehind =>
      simp only [perform, serveRotation_unfiled off]
      rfl
  | reopen policy => exact absurd rfl (still policy)

theorem Remembers.perform (remembers : Remembers policy disk records archive)
    (enabled : policy.enabled = true) (room : 0 < policy.memorySize)
    (still : ∀ policy, deed.operation ≠ .reopen policy) :
    Remembers policy disk (recordsAfter policy records deed) (archive.perform deed) := by
  obtain ⟨unfiled, settings, going, unchanged, free, ceiling, contents⟩ := remembers
  obtain ⟨kept, same⟩ := unfiled.perform still
  have settled := sameSettings_perform archive still
  have buffer := buffer_perform_unfiled unfiled going (settings ▸ enabled) still
  suffices held : (archive.perform deed).journal.buffer.inFlight = 0 ∧
      (archive.perform deed).journal.buffer.ceiling = policy.memorySize ∧
      (archive.perform deed).journal.buffer.entries.toList =
        (recordsAfter policy records deed).rtake policy.memorySize from
    { unfiled := kept
      settings := settled.1.trans settings
      going := settled.2.trans going
      disk := same.trans unchanged
      free := held.1
      ceiling := held.2.1
      contents := held.2.2 }
  rw [buffer, settings, recordsAfter]
  cases deed.operation with
  | add exchange =>
      dsimp only
      cases exchange.record policy.masksClients deed.occasion.now with
      | error fault => simpa [Except.toOption] using ⟨free, ceiling, contents⟩
      | ok entry =>
          refine ⟨(Buffer.inFlight_append _ _).trans free, (Buffer.ceiling_append _ _).trans ceiling,
            ?_⟩
          rw [← ceiling] at room contents ⊢
          exact Buffer.toList_append_rtake free room contents entry
  | clear => exact ⟨rfl, ceiling, (List.rtake_nil _).symm⟩
  | flush | rotate | flushBehind | rotateBehind | reopen => exact ⟨free, ceiling, contents⟩

theorem Remembers.performAll (remembers : Remembers policy disk records archive)
    (enabled : policy.enabled = true) (room : 0 < policy.memorySize)
    (still : ∀ deed ∈ deeds, ∀ policy, deed.operation ≠ .reopen policy) :
    Remembers policy disk (deeds.foldl (recordsAfter policy) records)
      (archive.performAll deeds) := by
  induction deeds generalizing records archive with
  | nil => exact remembers
  | cons deed deeds ih =>
      have next := remembers.perform enabled room (still deed List.mem_cons_self)
      exact ih next fun later member => still later (List.mem_cons_of_mem deed member)

/-- What those who use a log find that holds the last of some records and nothing else. -/
structure Recalls (capacity : Nat) (records : List Entry) (archive : Archive) : Prop where
  /-- A search for everything answers the last records, the newest one first. -/
  search : ∀ (clock : Clock) (request : Request), request.criteria = [] →
    request.olderThan = none → request.offset = 0 →
    min records.length capacity ≤ request.limit →
    (archive.journal.search clock request archive.disk).map Search.Report.page =
      .ok
        { entries := (records.rtake capacity).reverse
          matched := min records.length capacity
          oldest := (records.rtake capacity).head?.map Entry.time
          skipped := 0
          truncated := false }
  flush : ∀ occasion force, archive.journal.flush occasion force archive.disk =
    { answer := .ok 0, journal := archive.journal, disk := archive.disk }
  rotate : ∀ occasion, archive.journal.rotate occasion archive.disk =
    { answer := .ok (), journal := archive.journal, disk := archive.disk }
  clear : ∀ occasion, (archive.journal.clear occasion archive.disk).answer = .ok ()
  segments : archive.journal.segments = []
  files : archive.journal.files archive.disk = []

theorem Remembers.recalls (remembers : Remembers policy disk records archive) :
    Recalls policy.memorySize records archive := by
  obtain ⟨⟨off, held⟩, _, going, _, _, _, contents⟩ := remembers
  obtain ⟨journal, disk⟩ := archive
  have size : (records.rtake policy.memorySize).length =
      min records.length policy.memorySize := by
    rw [List.rtake, List.length_drop]
    omega
  have none : journal.files disk = [] := if_neg (ne_true_of_eq_false off)
  have whole : ∀ request : Request, request.offset = 0 →
      min records.length policy.memorySize ≤ request.limit →
      pageOf request (records.rtake policy.memorySize).reverse =
        (records.rtake policy.memorySize).reverse := by
    intro request offset enough
    rw [pageOf, offset, List.drop_zero, List.take_of_length_le]
    rwa [List.length_reverse, size]
  refine
    { search := ?_
      flush := ?_
      rotate := ?_
      clear := ?_
      segments := ?_
      files := none }
  · intro clock request criteria olderThan offset enough
    have seen : journal.buffer.snapshot = (records.rtake policy.memorySize).reverse :=
      congrArg List.reverse contents
    have page := ((reflects_start request).foldl_offer journal.buffer.snapshot).page
    rw [List.nil_append, kept_of_no_conditions criteria olderThan, seen, whole request offset enough,
      List.getLast?_reverse, List.length_reverse, size] at page
    rw [Journal.search, if_neg (ne_true_of_eq_false going), none, seen]
    exact congrArg Except.ok page
  · intro occasion force
    rw [Journal.flush, whileOpen_going going, serveFlush_unfiled journal off]
  · intro occasion
    rw [Journal.rotate, whileOpen_going going, serveRotation_unfiled off]
  · intro occasion
    change journal.catalog.takeAll.1 = [] at held
    simp only [Journal.clear, whileOpen_going going, held]
    rfl
  · exact List.map_eq_nil_iff.mp ((Catalog.map_segment_statuses journal.catalog).trans held)

/-- A log that is opened not to record to files holds the last records in memory, as many as it has
room for, whatever is done with it. A search for everything answers those. Nothing that is asked of
it fails. It does not list or read what is in its directory, and leaves it as it is. -/
theorem memory_keeps_newest {settings : Settings} {policy : Policy}
    (valid : settings.check = .ok policy) (enabled : settings.enabled = true)
    (unfiled : settings.fileEnabled = false) (obstacles : Obstacles) (disk : Disk) :
    ∃ journal, Journal.openOn policy obstacles disk = (.ok journal, disk) ∧
      ∀ deeds : List Deed, (∀ deed ∈ deeds, ∀ policy, deed.operation ≠ .reopen policy) →
        Recalls settings.memorySize (recordsSince policy deeds)
            (performAll { journal, disk } deeds) ∧
          (performAll { journal, disk } deeds).disk = disk := by
  obtain ⟨on, off, size, positive⟩ := Settings.check_ok valid
  rw [← size] at positive ⊢
  obtain ⟨journal, opened, begun⟩ := Remembers.openOn (off.trans unfiled) positive obstacles disk
  refine ⟨journal, opened, fun deeds still => ?_⟩
  have remembers := begun.performAll (on.trans enabled) positive still
  exact ⟨remembers.recalls, remembers.disk⟩

/-- Settings of a log without files that has room for one record. -/
def singleSettings : Settings :=
  { fileEnabled := false, memorySize := 1 }

def singlePolicy : Policy :=
  { enabled := true
    fileEnabled := false
    rotationSeconds := 7776000
    memorySize := 1
    directory := "./data/querylog"
    ignored := .none
    masksClients := false
    keptSegments := none }

/-- A directory in which there is a segment that the log knows nothing of. -/
def formerDisk : Disk :=
  { place := .folder [("querylog-00000001-20240101T000000Z.jsonl", .file 0 [])]
    nextIdentity := 1 }

/-- Two exchanges come in, the second of which was answered from the cache. -/
def pairDeeds : List Deed :=
  [{ occasion := { now := default }, operation := .add { question := default, client := default } },
    { occasion := { now := default }
      operation := .add { question := default, client := default, cached := true } },
    { occasion := { now := default }, operation := .rotate }]

theorem check_singleSettings : singleSettings.check = .ok singlePolicy := by
  have none : IgnoreList.ofEntries [] = .ok .none := by
    simp [IgnoreList.ofEntries, IgnoreList.collect, IgnoreList.sorted, IgnoreList.none, Except.map]
  simp only [Settings.check, singleSettings, none]
  rfl

theorem memory_keeps_newest_pair :
    ∃ journal page, Journal.openOn singlePolicy .none formerDisk = (.ok journal, formerDisk) ∧
      (performAll { journal, disk := formerDisk } pairDeeds).disk = formerDisk ∧
      ((performAll { journal, disk := formerDisk } pairDeeds).journal.search (fun _ => 0) {}
          (performAll { journal, disk := formerDisk } pairDeeds).disk).map Search.Report.page =
        .ok page ∧ page.entries.map Entry.cached = [true] := by
  have still : ∀ deed ∈ pairDeeds, ∀ policy, deed.operation ≠ .reopen policy := by
    simp [pairDeeds]
  obtain ⟨journal, opened, run⟩ :=
    memory_keeps_newest check_singleSettings rfl rfl .none formerDisk
  obtain ⟨recalls, same⟩ := run pairDeeds still
  have found := recalls.search (fun _ => 0) {} rfl rfl rfl (by decide +kernel)
  exact ⟨journal, _, opened, same, found, by decide +kernel⟩

end Archive

end QueryJournal
