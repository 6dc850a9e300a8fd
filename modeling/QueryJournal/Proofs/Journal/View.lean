import QueryJournal.Proofs.Journal.Soundness

namespace QueryJournal.Pipeline

open QueryJournal.Backward
open QueryJournal.Search (Clock Request entryOf? isSkipped itemsOf)
open QueryJournal.Storage
open QueryJournal.Utf8 (Bytes)

/-!
A search looks at the log between two of its steps and reads the files afterwards, while the log
goes on. Up to the length that counted when it looked a file does not change any more, so it finds
what was there at that moment.
-/

variable {ledger : Ledger} {state before after first last : Pipeline} {event : Ledger.Event}
  {target : ScanTarget} {reader : Reader}

/-- The target gives the reader, and no writer comes near the part of the file that it reads. -/
def Rests (target : ScanTarget) (reader : Reader) (state : Pipeline) : Prop :=
  match state.disk.find? target.segment.name with
  | none => False
  | some .directory => reader = .ofUnreadable
  | some (.file identity content) =>
    reader = .ofContent content target.limit ∧ identity < state.disk.nextIdentity ∧
      ∀ opened, state.journal.writer = some opened → opened.identity = identity →
        ∃ limit, target.limit = some limit ∧ limit ≤ opened.length ∧ limit ≤ content.length

theorem Rests.read (rests : Rests target reader state) :
    Journal.reader? state.disk target = some reader := by
  rw [Rests] at rests
  cases found : state.disk.find? target.segment.name with
  | none =>
      rw [found] at rests
      exact rests.elim
  | some node =>
      rw [found] at rests
      rw [Journal.reader?, found]
      cases node with
      | directory => exact congrArg some rests.symm
      | file identity content => exact congrArg some rests.1.symm

/-- A step that changes no name and opens no other file changes nothing for the target. -/
theorem Rests.same (rests : Rests target reader before)
    (same : after.disk.find? target.segment.name = before.disk.find? target.segment.name)
    (count : before.disk.nextIdentity ≤ after.disk.nextIdentity)
    (opened : ∀ opened, after.journal.writer = some opened →
      before.journal.writer = some opened ∨ before.disk.nextIdentity ≤ opened.identity) :
    Rests target reader after := by
  rw [Rests] at rests ⊢
  rw [same]
  split at rests
  · exact rests.elim
  · exact rests
  · obtain ⟨read, given, apart⟩ := rests
    refine ⟨read, Nat.lt_of_lt_of_le given count, fun writer present owner => ?_⟩
    rcases opened writer present with known | new
    · exact apart writer known owner
    · omega

/-- The part of a content that was read stays, and with it its length. -/
theorem le_length_of_take {limit : Nat} {content changed : Bytes}
    (same : changed.take limit = content.take limit) (inside : limit ≤ content.length) :
    limit ≤ changed.length := by
  have lengths := congrArg List.length same
  rw [List.length_take, List.length_take] at lengths
  omega

/-- A step that writes behind what counts changes nothing for the target. -/
theorem Rests.modify {opened longer : SegmentWriter} {change : Bytes → Bytes}
    (rests : Rests target reader before) (present : before.journal.writer = some opened)
    (disk : after.disk = before.disk.modify opened.identity change)
    (later : after.journal.writer = some longer) (owner : longer.identity = opened.identity)
    (length : opened.length ≤ longer.length)
    (behind : ∀ content limit, limit ≤ opened.length → limit ≤ content.length →
      (change content).take limit = content.take limit) :
    Rests target reader after := by
  rw [Rests] at rests ⊢
  rw [disk, Disk.find?_modify]
  split at rests
  · exact rests.elim
  · rename_i found
    simpa [found, Node.modified] using rests
  · rename_i identity content found
    obtain ⟨read, given, apart⟩ := rests
    simp only [found, Option.map_some, Node.modified]
    by_cases same : identity = opened.identity
    · obtain ⟨limit, bound, counted, inside⟩ := apart opened present same.symm
      have kept := behind content limit counted inside
      rw [if_pos same]
      refine ⟨?_, given, fun writer known _ => ⟨limit, bound, ?_, le_length_of_take kept inside⟩⟩
      · rw [read, bound, Reader.ofContent, Reader.ofContent, kept]
      · rw [later, Option.some.injEq] at known
        exact known ▸ Nat.le_trans counted length
    · rw [if_neg same]
      refine ⟨read, given, fun writer known owned => ?_⟩
      rw [later, Option.some.injEq] at known
      exact absurd (owned.symm.trans (known ▸ owner)) same

/-- As long as its file is not removed nothing changes for the target. -/
theorem Rests.step (rests : Rests target reader before) (step : Step before event after)
    (kept : (after.disk.find? target.segment.name).isSome) : Rests target reader after := by
  have quiet : ∀ {journal : Journal} {phase : Phase},
      journal.writer = before.journal.writer ∨ journal.writer = none →
        Rests target reader { journal, disk := before.disk, phase } := by
    intro journal phase writer
    refine rests.same rfl (Nat.le_refl _) fun opened present => .inl ?_
    rcases writer with known | none
    · exact known ▸ present
    · simp [none] at present
  cases step with
  | append => exact quiet (.inl rfl)
  | take => exact quiet (.inl rfl)
  | leave => exact quiet (.inl rfl)
  | resume => exact quiet (.inl rfl)
  | number => exact quiet (.inl rfl)
  | make obstacles made =>
      obtain ⟨rfl, count, free, _, others⟩ := SegmentWriter.create_ok made
      refine rests.same (others _ fun taken => ?_) (by simp [count]) ?_
      · have read := rests.read
        rw [Journal.reader?, taken, free] at read
        contradiction
      · rintro _ ⟨rfl⟩
        exact .inr (Nat.le_refl _)
  | refuse obstacles refused =>
      obtain ⟨count, same⟩ := SegmentWriter.create_error refused
      exact rests.same (same _) (by simp [count]) fun opened present => .inl present
  | activate => exact quiet (.inl rfl)
  | @grow journal disk batch writer obstacles present =>
      refine rests.modify present rfl present rfl (Nat.le_refl _) ?_
      exact fun content limit counted inside => Disk.take_overwritten counted inside _
  | @land journal disk batch writer obstacles present whole =>
      refine rests.modify present rfl rfl rfl (Nat.le_add_right _ _) ?_
      exact fun content limit counted inside => Disk.take_overwritten counted inside _
  | @cutBack journal disk batch writer obstacles present =>
      refine rests.modify present rfl present rfl (Nat.le_refl _) ?_
      intro content limit counted inside
      split
      · rfl
      · exact Disk.take_resized counted inside
  | commit => exact quiet (.inl rfl)
  | abort => exact quiet (.inl rfl)
  | close => exact quiet (.inr rfl)
  | clear => exact quiet (.inr rfl)
  | @remove journal disk segment segments obstacles =>
      refine rests.same ?_ (by simp) fun opened present => .inl present
      by_cases same : target.segment.name = segment.name
      · rw [same] at kept ⊢
        rcases Disk.find?_remove_self obstacles disk segment.name with still | gone
        · exact still
        · simp [gone] at kept
      · exact Disk.find?_remove_ne obstacles disk same
  | finish => exact quiet (.inl rfl)

/-- A later state of the log, up to which a name was there all the time. -/
inductive Keeps (name : String) : Pipeline → Pipeline → Prop where
  | refl (state : Pipeline) : Keeps name state state
  | step {first middle last : Pipeline} {event : Ledger.Event} :
      Keeps name first middle → Step middle event last → (last.disk.find? name).isSome →
        Keeps name first last

theorem Rests.keeps (rests : Rests target reader first)
    (keeps : Keeps target.segment.name first last) : Rests target reader last := by
  induction keeps with
  | refl => exact rests
  | step _ step present ih => exact ih.step step present

/-- A target that is read at a later moment, before its file is removed. -/
def ReadLater (view : Pipeline) (target : ScanTarget) (file : Option Reader) : Prop :=
  ∃ later, Keeps target.segment.name view later ∧ file = Journal.reader? later.disk target

theorem readLater_now (state : Pipeline) (targets : List ScanTarget) :
    List.Forall₂ (ReadLater state) targets (targets.map (Journal.reader? state.disk)) := by
  induction targets with
  | nil => exact .nil
  | cons target targets ih => exact .cons ⟨state, .refl state, rfl⟩ ih

theorem Sound.rests (sound : Sound ledger state) (member : target ∈ state.journal.catalog.scanPlan) :
    ∃ reader, Rests target reader state := by
  obtain ⟨_, _, _, older, current, _, _, shelved⟩ := sound
  rw [Catalog.scanPlan, List.mem_append] at member
  rcases member with active | closed
  · rw [Option.mem_toList, Option.map_eq_some_iff] at active
    obtain ⟨segment, known, rfl⟩ := active
    cases present : state.journal.writer with
    | none =>
        rw [(shelved.shut present).2] at known
        contradiction
    | some opened =>
        have front := shelved.front opened present
        obtain ⟨rest, _, content⟩ := front.content
        have same := front.active
        rw [known] at same
        split at same
        · contradiction
        · rw [Option.some.injEq] at same
          subst same
          refine ⟨.ofContent (Entry.lines current ++ rest) (some (Entry.lines current).length), ?_⟩
          rw [Rests, content]
          refine ⟨rfl, shelved.numbered _ _ _ content, fun writer also _ => ?_⟩
          rw [present, Option.some.injEq] at also
          refine ⟨_, rfl, ?_, ?_⟩
          · rw [← also, front.length]
            exact Nat.le_add_right _ _
          · rw [List.length_append]
            exact Nat.le_add_right _ _
  · obtain ⟨segment, member, rfl⟩ := List.mem_map.mp closed
    have listed := List.mem_reverse.mp member
    obtain ⟨node, found⟩ := shelved.present segment listed
    cases node with
    | directory => exact ⟨.ofUnreadable, by rw [Rests, found]⟩
    | file identity content =>
        refine ⟨.ofContent content none, ?_⟩
        rw [Rests, found]
        refine ⟨rfl, shelved.numbered _ _ _ found, fun writer present owner => ?_⟩
        exact absurd (owner ▸ found) ((shelved.front writer present).apart segment listed content)

/-- What is read later is what was there at the moment of the view. -/
theorem Sound.files_eq (sound : Sound ledger state) {files : List (Option Reader)}
    (reads : List.Forall₂ (ReadLater state) state.journal.catalog.scanPlan files) :
    files = state.journal.catalog.scanPlan.map (Journal.reader? state.disk) := by
  have targets : ∀ target ∈ state.journal.catalog.scanPlan, ∃ reader, Rests target reader state :=
    fun target member => sound.rests member
  generalize state.journal.catalog.scanPlan = plan at reads targets
  induction reads with
  | nil => rfl
  | @cons target file others files read _ ih =>
      obtain ⟨later, keeps, rfl⟩ := read
      obtain ⟨reader, rests⟩ := targets target List.mem_cons_self
      rw [List.map_cons, (rests.keeps keeps).read, rests.read,
        ih fun other member => targets other (List.mem_cons_of_mem _ member)]

/-!
### What the search answers
-/

/-- In the files of the log are the records that are stored, and nothing else is skipped there. -/
theorem Sound.items (sound : Sound ledger state) :
    ((state.journal.catalog.scanPlan.map (Journal.reader? state.disk)).flatMap
        itemsOf).filterMap entryOf? = ledger.stored.reverse ∧
      ((state.journal.catalog.scanPlan.map (Journal.reader? state.disk)).flatMap
        itemsOf).countP isSkipped = ledger.unread := by
  obtain ⟨_, _, _, older, current, stored, short, shelved⟩ := sound
  have closed : ((state.journal.catalog.closed.reverse.map fun segment =>
      { segment, limit := none : ScanTarget }).map (Journal.reader? state.disk)).flatMap itemsOf =
        closedItems state.disk state.journal.catalog.closed := by
    rw [closedItems, List.map_map, List.flatMap_map]
    rfl
  have active : (((state.journal.catalog.active.map fun active =>
      { segment := active.segment, limit := some active.committed : ScanTarget }).toList.map
        (Journal.reader? state.disk)).flatMap itemsOf) =
          current.reverse.map fun entry => .line entry.lineBody := by
    cases present : state.journal.writer with
    | none =>
        obtain ⟨none, inactive⟩ := shelved.shut present
        rw [inactive, none]
        rfl
    | some opened =>
        have front := shelved.front opened present
        have known := front.active
        split at known
        · rename_i made
          rw [known, front.fresh made]
          rfl
        · rw [known]
          simpa using Shelved.items_front front short (.inl rfl)
  rw [Catalog.scanPlan, List.map_append, List.flatMap_append, active, closed, List.filterMap_append,
    List.countP_append, Entry.filterMap_lineItems, Entry.countP_lineItems, shelved.found,
    shelved.skipped, stored, List.reverse_append]
  exact ⟨rfl, Nat.zero_add _⟩

theorem Sound.page (sound : Sound ledger state) (clock : Clock) {request : Request}
    {files : List (Option Reader)}
    (reads : List.Forall₂ (ReadLater state) state.journal.catalog.scanPlan files)
    (unbounded : request.Unbounded ledger.records.length) :
    (Search.run clock request state.journal.buffer.snapshot files).page = ledger.page := by
  have memory : state.journal.buffer.snapshot = ledger.waiting.reverse := by
    rw [Buffer.snapshot, sound.memory.entries]
  have whole : ledger.waiting.reverse ++ ledger.stored.reverse = ledger.records.reverse := by
    rw [← List.reverse_append, ledger.stored_append_waiting]
  obtain ⟨found, skipped⟩ := sound.items
  rw [← sound.files_eq reads] at found skipped
  rw [memory, Search.page_run_unbounded clock _ files found (by
    rw [whole, List.length_reverse]
    exact unbounded), whole, skipped, List.length_reverse, List.getLast?_reverse]
  rfl

end QueryJournal.Pipeline
