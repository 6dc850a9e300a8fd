import QueryJournal.Proofs.Journal.View

namespace QueryJournal.Pipeline

open QueryJournal.Backward (maxLineLength Reader)
open QueryJournal.Search (Clock Request entryOf? isSkipped)
open QueryJournal.Storage

/-!
A log that was just opened has nothing in memory, and its ledger is what its files hold. From
there on every view shows each record once, whatever is under way.
-/

variable {start view first last : Pipeline} {ledger : Ledger} {events : List Ledger.Event}
  {event : Ledger.Event} {files : List (Option Reader)} {request : Request}

/-- Nothing is in memory, nothing is under way and every segment is a closed one that is there. -/
structure Opened (state : Pipeline) : Prop where
  phase : state.phase = .idle
  empty : state.journal.buffer.entries = #[]
  inFlight : state.journal.buffer.inFlight = 0
  writer : state.journal.writer = none
  active : state.journal.catalog.active = none
  numbered : state.disk.Numbered
  present : ∀ segment ∈ state.journal.catalog.closed,
    ∃ node, state.disk.find? segment.name = some node

def opening (state : Pipeline) : Ledger :=
  let items := closedItems state.disk state.journal.catalog.closed
  { records := (items.filterMap entryOf?).reverse
    written := (items.filterMap entryOf?).length
    inFlight := 0
    ceiling := state.journal.buffer.ceiling
    unread := items.countP isSkipped
    covered := Nat.le_of_eq List.length_reverse.symm }

theorem stored_opening (state : Pipeline) :
    state.opening.stored = state.opening.records :=
  List.take_of_length_le (Nat.le_of_eq List.length_reverse)

theorem waiting_opening (state : Pipeline) : state.opening.waiting = [] :=
  List.drop_of_length_le (Nat.le_of_eq List.length_reverse)

theorem Opened.sound (opened : start.Opened) : Sound start.opening start := by
  have waiting := start.waiting_opening
  refine
    { memory :=
        { entries := by rw [opened.empty, waiting]
          inFlight := opened.inFlight
          ceiling := rfl }
      batch := by rw [waiting, opened.phase]; rfl
      short := by simp [waiting]
      files := ⟨start.opening.records, [], ?_, by simp, ?_⟩ }
  · rw [stored_opening, List.append_nil]
  · rw [opened.phase]
    exact
      { numbered := opened.numbered
        present := opened.present
        found := (List.reverse_reverse _).symm
        skipped := rfl
        allowed := trivial
        emptied := nofun
        shut := fun _ => ⟨rfl, opened.active⟩
        front := by simp [opened.writer] }

def fresh (policy : Policy) : Pipeline :=
  { journal :=
      { policy
        buffer := Buffer.new policy.memorySize policy.fileEnabled
        catalog := { closed := [], active := none, nextNumber := 1 }
        writer := none
        closed := false
        encodeFailures := 0
        failedFlushes := 0 }
    disk := {}
    phase := .idle }

theorem opened_fresh (policy : Policy) : (fresh policy).Opened :=
  { phase := rfl
    empty := rfl
    inFlight := rfl
    writer := rfl
    active := rfl
    numbered := by simp [fresh, Disk.Numbered, Disk.find?]
    present := by simp [fresh] }

/-!
### What is dropped
-/

/-- The buffer counts the records that are dropped, and no others are. -/
theorem Sound.dropped_step (sound : Sound ledger first) (step : Step first event last)
    (kept : event ≠ .cleared) :
    last.journal.buffer.dropped + (ledger.after event).records.length =
      first.journal.buffer.dropped + ledger.records.length + event.entry?.toList.length := by
  cases step with
  | append _ entry =>
      have length := ledger.length_append entry
      have excess := sound.memory.excess
      simp only [Buffer.dropped_append, Ledger.after, Ledger.Event.entry?, Option.toList_some,
        List.length_singleton]
      omega
  | clear => exact absurd rfl kept
  | _ => rfl

theorem Sound.dropped_run (sound : Sound ledger first) (run : Run first events last)
    (kept : ∀ event ∈ events, event ≠ .cleared) :
    last.journal.buffer.dropped + (ledger.afterAll events).records.length =
      first.journal.buffer.dropped + ledger.records.length +
        (events.filterMap Ledger.Event.entry?).length := by
  induction run with
  | refl => simp [Ledger.afterAll]
  | @step _ events _ event earlier step ih =>
      have before := ih fun event member => kept event (List.mem_append_left _ member)
      have here := (sound.run earlier).dropped_step step (kept event (by simp))
      have single : [event].filterMap Ledger.Event.entry? = event.entry?.toList := by
        cases event <;> rfl
      rw [Ledger.afterAll_append, List.filterMap_append, List.length_append, single]
      simp only [Ledger.afterAll, List.foldl_cons, List.foldl_nil] at before here ⊢
      omega

/-!
### Every view of every run
-/

/-- A search for everything, at any moment of any order of steps and with its files read at any
later moments, answers exactly the records of the ledger, the newest one first. Those are records
that the files held at first or that came before the view, each of them once and in the order in
which they came, and those that are missing were dropped by the buffer or cleared. -/
theorem view_answers_ledger (opened : start.Opened) (run : Run start events view)
    (reads : List.Forall₂ (ReadLater view) view.journal.catalog.scanPlan files)
    (unbounded : request.Unbounded (start.opening.afterAll events).records.length)
    (clock : Clock) :
    (Search.run clock request view.journal.buffer.snapshot files).page =
        (start.opening.afterAll events).page ∧
      (start.opening.afterAll events).records.Sublist
        (start.opening.records ++ events.filterMap Ledger.Event.entry?) ∧
      ((∀ event ∈ events, event ≠ .cleared) →
        view.journal.buffer.dropped + (start.opening.afterAll events).records.length =
          start.journal.buffer.dropped +
            (start.opening.records ++ events.filterMap Ledger.Event.entry?).length) := by
  have sound := opened.sound.run run
  refine ⟨sound.page clock reads unbounded, Ledger.sublist_afterAll _ _, fun kept => ?_⟩
  have dropped := opened.sound.dropped_run run kept
  rw [List.length_append]
  omega

theorem length_lineBody_default : (default : Entry).lineBody.length ≤ maxLineLength := by
  decide +kernel

/-- The first record of a log is found once while three bytes of it stand in the new file. -/
theorem view_answers_ledger_half_written :
    ∃ view files, Run (fresh default)
        [.appended default, .taken, .silent, .silent, .silent, .silent] view ∧
      List.Forall₂ (ReadLater view) view.journal.catalog.scanPlan files ∧
      (Search.run (fun _ => 0) { scanCap := 0 } view.journal.buffer.snapshot files).page =
        { entries := [default]
          matched := 1
          oldest := some (default : Entry).time
          skipped := 0
          truncated := false } := by
  have come := Run.single (.append (fresh default) default length_lineBody_default)
  have taken := come.step .take
  have numbered := taken.step (.number default rfl)
  have made := numbered.step (.make .none rfl)
  have active := made.step (.activate rfl)
  have grown := active.step (.grow { growthLimit := some 3 } rfl)
  have unbounded : ({ scanCap := 0 } : Request).Unbounded 1 :=
    ⟨rfl, rfl, rfl, rfl, rfl, by decide⟩
  have answered := view_answers_ledger (opened_fresh default) grown (readLater_now _ _) unbounded
    fun _ => 0
  exact ⟨_, _, grown, readLater_now _ _, answered.1.trans (by decide)⟩

end QueryJournal.Pipeline
