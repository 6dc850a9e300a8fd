import QueryJournal.Journal.Upkeep
import QueryJournal.Proofs.Journal.Attention
import QueryJournal.Proofs.Journal.Operations

namespace QueryJournal

open QueryJournal.Storage

/-!
A log in service: its upkeep goes about its chores while entries come in and others flush, rotate
and clear. A flush that the buffer asks for is never forgotten. Either the request is still there,
or a retry is scheduled, or the upkeep is at work.
-/

/-- What the upkeep is doing. A requested flush that began at some time waits while others write, is
under way, or is over with an answer. -/
inductive Duty where
  | idle
  | waiting (begun : Nat)
  | flushing (begun : Nat)
  | flushed (begun : Nat) (answer : Except Failure Nat)
  | rotating

def Duty.begun? : Duty → Option Nat
  | .waiting begun => some begun
  | .flushing begun => some begun
  | .flushed begun _ => some begun
  | _ => none

/-- A requested flush that is over: when it began, when it ended and whether it failed. -/
structure Attempt where
  begun : Nat
  ended : Nat
  failed : Bool
  deriving DecidableEq

/-- A log with its upkeep in the middle of things, and the requested flushes that are over, the last
one first. -/
structure Service where
  pipeline : Pipeline
  upkeep : Upkeep
  duty : Duty
  clock : Nat
  attempts : List Attempt

def Attempt.ofAnswer (begun ended : Nat) : Except Failure Nat → Attempt
  | .ok _ => { begun, ended, failed := false }
  | .error _ => { begun, ended, failed := true }

namespace Service

/-- One step of whoever has to do with the log. -/
inductive Step : Service → Service → Prop where
  /-- An exchange comes in, whatever is under way. If the buffer wants a flush it requests one. -/
  | add (state : Service) (occasion : Occasion) (exchange : Exchange) :
      Step state
        { state with
          pipeline :=
            { state.pipeline with
              journal := (state.pipeline.journal.add occasion.now exchange).2 }
          upkeep :=
            { state.upkeep with
              requested := state.upkeep.requested ||
                (state.pipeline.journal.add occasion.now exchange).1 } }
  /-- Time passes, whatever is under way. -/
  | advance (state : Service) (milliseconds : Nat) :
      Step state { state with clock := state.clock + milliseconds }
  /-- A flush, a rotation or a clear goes a step further, of others or of a rotation of the
  upkeep. -/
  | operate {state : Service} {event : Ledger.Event} {after : Pipeline}
      (step : Pipeline.Step state.pipeline event after) (quiet : event.entry? = none)
      (free : ∀ begun, state.duty ≠ .flushing begun) :
      Step state { state with pipeline := after }
  /-- A rotation gives up the oldest segments, as far as there are too many. -/
  | prune {state : Service} {journal : Journal} {disk : Disk} (kept : Option Nat)
      (obstacles : Obstacles) (idle : state.pipeline = { journal, disk, phase := .idle }) :
      Step state
        { state with
          pipeline :=
            { journal := { journal with catalog := (journal.catalog.prune kept).2 }
              disk := (Journal.removeAll obstacles disk (journal.catalog.prune kept).1).2
              phase := .idle } }
  /-- The upkeep takes up a request. -/
  | request {state : Service} (free : state.duty = .idle)
      (ready : state.upkeep.isReady state.clock .request = true) :
      Step state
        { state with
          upkeep := { state.upkeep with requested := false }
          duty := .waiting state.clock }
  | retry {state : Service} (free : state.duty = .idle)
      (ready : state.upkeep.isReady state.clock .retry = true) :
      Step state { state with duty := .waiting state.clock }
  /-- By the time nobody else writes the buffer does not ask any more. -/
  | decline {state : Service} {begun : Nat} (turn : state.duty = .waiting begun)
      (idle : state.pipeline.phase = .idle)
      (unasked : state.pipeline.journal.buffer.flushPending = false) :
      Step state { state with duty := .flushed begun (.ok 0) }
  /-- The requested flush takes its batch. -/
  | take {state : Service} {after : Pipeline} {begun : Nat} (turn : state.duty = .waiting begun)
      (asked : state.pipeline.journal.buffer.flushPending = true)
      (step : Pipeline.Step state.pipeline .taken after) :
      Step state { state with pipeline := after, duty := .flushing begun }
  | work {state : Service} {after : Pipeline} {begun : Nat} (turn : state.duty = .flushing begun)
      (step : Pipeline.Step state.pipeline .silent after) :
      Step state { state with pipeline := after }
  /-- There was nothing to be written. -/
  | leave {state : Service} {begun : Nat} (turn : state.duty = .flushing begun)
      (idle : state.pipeline.phase = .idle) :
      Step state { state with duty := .flushed begun (.ok 0) }
  | commit {state : Service} {after : Pipeline} {begun : Nat} (count : Nat)
      (turn : state.duty = .flushing begun)
      (step : Pipeline.Step state.pipeline .committed after) :
      Step state { state with pipeline := after, duty := .flushed begun (.ok count) }
  | abort {state : Service} {after : Pipeline} {begun : Nat} (failure : Failure)
      (turn : state.duty = .flushing begun)
      (step : Pipeline.Step state.pipeline .aborted after) :
      Step state { state with pipeline := after, duty := .flushed begun (.error failure) }
  /-- The upkeep notes what became of the flush. If it failed a retry is scheduled. -/
  | note {state : Service} {begun : Nat} {answer : Except Failure Nat}
      (turn : state.duty = .flushed begun answer) :
      Step state
        { state with
          upkeep := state.upkeep.afterFlush state.clock answer
          duty := .idle
          attempts := .ofAnswer begun state.clock answer :: state.attempts }
  | rotate {state : Service} (free : state.duty = .idle)
      (ready : state.upkeep.isReady state.clock .rotation = true) :
      Step state { state with duty := .rotating }
  | rotated {state : Service} (turn : state.duty = .rotating) :
      Step state
        { state with
          upkeep := { state.upkeep with rotateAt := state.clock + state.upkeep.interval }
          duty := .idle }

def Steps : Service → Service → Prop :=
  Relation.ReflTransGen Step

end Service

namespace Pipeline

variable {before after : Pipeline} {event : Ledger.Event}

/-- What a step that brings no entry does to the buffer. -/
theorem Step.buffer_cases (step : Step before event after) (quiet : event.entry? = none) :
    after.journal.buffer = before.journal.buffer ∨
      after.journal.buffer = before.journal.buffer.pending.2 ∨
      after.journal.buffer = before.journal.buffer.commit ∨
      after.journal.buffer = before.journal.buffer.abort ∨
      after.journal.buffer = before.journal.buffer.clear := by
  cases step with
  | append => exact absurd quiet (Option.some_ne_none _)
  | take => exact .inr (.inl rfl)
  | commit => exact .inr (.inr (.inl rfl))
  | abort => exact .inr (.inr (.inr (.inl rfl)))
  | clear => exact .inr (.inr (.inr (.inr rfl)))
  | leave | resume | number | make | refuse | activate | grow | land | cutBack | close | remove
  | finish => exact .inl rfl

/-- As many entries are in flight as belong to the batch under way. -/
theorem Step.inFlight (step : Step before event after) (quiet : event.entry? = none)
    (flying : before.journal.buffer.inFlight = before.phase.batch.length) :
    after.journal.buffer.inFlight = after.phase.batch.length := by
  cases step with
  | append => exact absurd quiet (Option.some_ne_none _)
  | take => exact Array.length_toList.symm
  | commit | abort | clear => rfl
  | leave | resume | number | make | refuse | activate | grow | land | cutBack | close | remove
  | finish => exact flying

theorem Step.buffer_silent (step : Step before .silent after) :
    after.journal.buffer = before.journal.buffer := by
  cases step <;> rfl

theorem Step.buffer_taken (step : Step before .taken after) :
    after.journal.buffer = before.journal.buffer.pending.2 := by
  cases step
  rfl

theorem Step.buffer_committed (step : Step before .committed after) :
    after.journal.buffer = before.journal.buffer.commit := by
  cases step
  rfl

theorem Step.attentive (step : Step before event after) (quiet : event.entry? = none)
    (attentive : before.journal.buffer.Attentive) : after.journal.buffer.Attentive := by
  rcases step.buffer_cases quiet with same | same | same | same | same <;> rw [same]
  · exact attentive
  · exact attentive.pending
  · exact attentive.commit
  · exact attentive.abort
  · exact attentive.clear

/-- Only a new entry makes the buffer ask for a flush. -/
theorem Step.asked_before (step : Step before event after) (quiet : event.entry? = none)
    (attentive : before.journal.buffer.Attentive)
    (asks : after.journal.buffer.flushPending = true) :
    before.journal.buffer.flushPending = true := by
  rcases step.buffer_cases quiet with same | same | same | same | same <;> rw [same] at asks
  · exact asks
  · exact asks
  · exact attentive.asked_before_commit asks
  · exact asks
  · exact absurd asks Bool.false_ne_true

end Pipeline

/-!
### Requests are heeded
-/

/-- What keeps a request alive, whatever the upkeep is doing. While it flushes, the entries that
came after its batch must have requested anew if there are enough of them. -/
def Duty.Heeds (buffer : Buffer Entry) (upkeep : Upkeep) : Duty → Prop
  | .idle | .rotating =>
    buffer.flushPending = true → upkeep.requested = true ∨ upkeep.retryAt.isSome = true
  | .waiting _ | .flushed _ (.error _) => True
  | .flushing _ =>
    buffer.isFull (buffer.entries.size - buffer.inFlight) = true → upkeep.requested = true
  | .flushed _ (.ok _) => buffer.flushPending = true → upkeep.requested = true

namespace Service

variable {state before after : Service}

/-- Nobody forgets that the buffer asks for a flush. -/
structure Heeded (state : Service) : Prop where
  persistent : state.pipeline.journal.buffer.persistent = true
  attentive : state.pipeline.journal.buffer.Attentive
  flying : state.pipeline.journal.buffer.inFlight = state.pipeline.phase.batch.length
  heeds : state.duty.Heeds state.pipeline.journal.buffer state.upkeep

/-- What others do outside of a requested flush takes away no reason to heed. -/
theorem heeds_of_asked {duty : Duty} {buffer later : Buffer Entry} {upkeep : Upkeep}
    (free : ∀ begun, duty ≠ .flushing begun)
    (asked : later.flushPending = true → buffer.flushPending = true)
    (heeds : duty.Heeds buffer upkeep) : duty.Heeds later upkeep := by
  cases duty with
  | idle => exact fun asks => heeds (asked asks)
  | rotating => exact fun asks => heeds (asked asks)
  | waiting begun => trivial
  | flushing begun => exact absurd rfl (free begun)
  | flushed begun answer =>
      cases answer with
      | error failure => trivial
      | ok count => exact fun asks => heeds (asked asks)

/-- A new entry either leaves the buffer as it was or has its flush requested if it wants one. -/
theorem add_cases (occasion : Occasion) (exchange : Exchange) (journal : Journal) :
    (journal.add occasion.now exchange).2.buffer = journal.buffer ∧
        (journal.add occasion.now exchange).1 = false ∨
      ∃ entry, (journal.add occasion.now exchange).2.buffer = (journal.buffer.append entry).2 ∧
        (journal.add occasion.now exchange).1 = (journal.buffer.append entry).1.flushWanted := by
  rw [Journal.add]
  split
  · exact .inl ⟨rfl, rfl⟩
  · split
    · exact .inl ⟨rfl, rfl⟩
    · rename_i entry _
      exact .inr ⟨entry, rfl, rfl⟩

/-- Whoever wants a flush with a new entry requests it, whatever the upkeep is doing. -/
theorem heeds_append {duty : Duty} {buffer : Buffer Entry} {upkeep : Upkeep}
    (attentive : buffer.Attentive) (entry : Entry) (heeds : duty.Heeds buffer upkeep) :
    duty.Heeds (buffer.append entry).2
      { upkeep with
        requested := upkeep.requested || (buffer.append entry).1.flushWanted } := by
  have wanted := attentive.flushPending_append entry
  have requested : (buffer.append entry).2.flushPending = true →
      (upkeep.requested || (buffer.append entry).1.flushWanted) = true := by
    intro asks
    rw [← wanted, asks, Bool.or_true]
  cases duty with
  | idle => exact fun asks => .inl (requested asks)
  | rotating => exact fun asks => .inl (requested asks)
  | waiting begun => trivial
  | flushing begun =>
      -- What came after the batch is enough on its own, so it is enough together with the batch.
      intro full
      refine requested ?_
      rw [(attentive.append entry).asks]
      exact Buffer.isFull_mono full (Nat.sub_le _ _)
  | flushed begun answer =>
      cases answer with
      | error failure => trivial
      | ok count => exact requested

theorem Heeded.add (heeded : Heeded state) (occasion : Occasion) (exchange : Exchange) :
    Heeded
      { state with
        pipeline :=
          { state.pipeline with
            journal := (state.pipeline.journal.add occasion.now exchange).2 }
        upkeep :=
          { state.upkeep with
            requested := state.upkeep.requested ||
              (state.pipeline.journal.add occasion.now exchange).1 } } := by
  obtain ⟨persistent, attentive, flying, heeds⟩ := heeded
  rcases add_cases occasion exchange state.pipeline.journal with
    ⟨same, unwanted⟩ | ⟨entry, appended, wanted⟩
  · rw [unwanted, Bool.or_false]
    exact
      { persistent := same ▸ persistent
        attentive := same ▸ attentive
        flying := same ▸ flying
        heeds := same ▸ heeds }
  · rw [wanted]
    refine
      { persistent := ?_
        attentive := ?_
        flying := ?_
        heeds := ?_ }
    · simp only [appended]
      exact (Buffer.evict_persistent _).trans persistent
    · simp only [appended]
      exact attentive.append entry
    · simp only [appended]
      exact (Buffer.inFlight_append _ entry).trans flying
    · simp only [appended]
      exact heeds_append attentive entry heeds

/-- A step of a flush, a rotation or a clear keeps what the buffer is known for. -/
theorem Heeded.operate {duty : Duty} {upkeep : Upkeep} {clock : Nat} {attempts : List Attempt}
    {next : Pipeline} {event : Ledger.Event} (heeded : Heeded state)
    (step : Pipeline.Step state.pipeline event next) (quiet : event.entry? = none)
    (heeds : duty.Heeds next.journal.buffer upkeep) :
    Heeded { pipeline := next, upkeep, duty, clock, attempts } :=
  { persistent := by
      rcases step.buffer_cases quiet with same | same | same | same | same <;> rw [same] <;>
        exact heeded.persistent
    attentive := step.attentive quiet heeded.attentive
    flying := step.inFlight quiet heeded.flying
    heeds }

theorem Heeded.step (heeded : Heeded before) (step : Step before after) : Heeded after := by
  obtain ⟨persistent, attentive, flying, heeds⟩ := id heeded
  cases step with
  | add occasion exchange => exact heeded.add occasion exchange
  | advance milliseconds => exact ⟨persistent, attentive, flying, heeds⟩
  | operate step quiet free =>
      exact heeded.operate step quiet
        (heeds_of_asked free (step.asked_before quiet attentive) heeds)
  | prune kept obstacles idle =>
      rw [idle] at persistent attentive flying heeds
      exact ⟨persistent, attentive, flying, heeds⟩
  | request free ready => exact ⟨persistent, attentive, flying, trivial⟩
  | retry free ready => exact ⟨persistent, attentive, flying, trivial⟩
  | decline turn idle unasked =>
      refine ⟨persistent, attentive, flying, fun asks => ?_⟩
      exact absurd (unasked.symm.trans asks) Bool.false_ne_true
  | take turn asked step =>
      refine heeded.operate step rfl fun full => ?_
      -- All entries are in the batch, so none came after it yet.
      simp only [step.buffer_taken, Buffer.pending, Nat.sub_self] at full
      exact absurd (attentive.not_isFull_zero.symm.trans full) Bool.false_ne_true
  | work turn step =>
      refine heeded.operate step rfl ?_
      rw [step.buffer_silent]
      exact heeds
  | leave turn idle =>
      -- The batch was empty, so all entries came after it.
      refine ⟨persistent, attentive, flying, fun asks => ?_⟩
      rw [turn] at heeds
      rw [idle, Phase.batch, List.length_nil] at flying
      refine heeds ?_
      rw [flying, Nat.sub_zero, ← attentive.asks, asks]
  | commit count turn step =>
      refine heeded.operate step rfl fun asks => ?_
      rw [turn] at heeds
      rw [step.buffer_committed, Buffer.flushPending_commit] at asks
      exact heeds asks
  | abort failure turn step => exact heeded.operate step rfl trivial
  | @note begun answer turn =>
      rw [turn] at heeds
      refine ⟨persistent, attentive, flying, fun asks => ?_⟩
      cases answer with
      | ok count => exact .inl (heeds asks)
      | error failure => exact .inr rfl
  | rotate free ready =>
      rw [free] at heeds
      exact ⟨persistent, attentive, flying, heeds⟩
  | rotated turn =>
      rw [turn] at heeds
      exact ⟨persistent, attentive, flying, heeds⟩

theorem Heeded.steps (heeded : Heeded before) (steps : Steps before after) : Heeded after := by
  induction steps with
  | refl => exact heeded
  | tail _ step ih => exact ih.step step

/-!
### Retries keep their time
-/

/-- A retry is scheduled exactly after a requested flush that failed, and no requested flush begins
before the time of the retry. -/
structure Scheduled (state : Service) : Prop where
  retryAt : state.upkeep.retryAt =
    (state.attempts.head?.filter Attempt.failed).map (·.ended + retryDelay)
  begun : ∀ begun ∈ state.duty.begun?, ∀ time ∈ state.upkeep.retryAt, time ≤ begun
  spaced : state.attempts.IsChain fun later earlier =>
    earlier.failed = true → earlier.ended + retryDelay ≤ later.begun

/-- Nothing changes for the retries while the upkeep does not take note of a flush. -/
theorem Scheduled.same (scheduled : Scheduled before)
    (retryAt : after.upkeep.retryAt = before.upkeep.retryAt)
    (attempts : after.attempts = before.attempts)
    (begun : ∀ begun ∈ after.duty.begun?, before.duty.begun? = some begun) : Scheduled after :=
  { retryAt := by rw [retryAt, attempts, scheduled.retryAt]
    begun := by
      intro start member time there
      rw [retryAt] at there
      exact scheduled.begun start (begun start member) time there
    spaced := attempts ▸ scheduled.spaced }

theorem Scheduled.begin {upkeep : Upkeep} (scheduled : Scheduled state)
    (retryAt : upkeep.retryAt = state.upkeep.retryAt)
    (due : ∀ time ∈ state.upkeep.retryAt, time ≤ state.clock) :
    Scheduled { state with upkeep, duty := .waiting state.clock } :=
  { retryAt := retryAt.trans scheduled.retryAt
    begun := by
      intro start member time there
      rw [retryAt] at there
      cases member
      exact due time there
    spaced := scheduled.spaced }

theorem Scheduled.note {begun : Nat} {answer : Except Failure Nat} (scheduled : Scheduled state)
    (turn : state.duty = .flushed begun answer) :
    Scheduled
      { state with
        upkeep := state.upkeep.afterFlush state.clock answer
        duty := .idle
        attempts := .ofAnswer begun state.clock answer :: state.attempts } := by
  obtain ⟨retryAt, waited, spaced⟩ := scheduled
  refine
    { retryAt := ?_
      begun := nofun
      spaced := ?_ }
  · cases answer <;> rfl
  · refine List.isChain_cons.mpr ⟨fun earlier last failed => ?_, spaced⟩
    have start : (Attempt.ofAnswer begun state.clock answer).begun = begun := by
      cases answer <;> rfl
    rw [start]
    refine waited begun (by rw [turn]; rfl) _ ?_
    rw [retryAt, Option.mem_def.mp last, Option.filter_some_pos failed, Option.map_some]
    rfl

theorem Scheduled.step (scheduled : Scheduled before) (step : Step before after) :
    Scheduled after := by
  cases step with
  | add | advance | operate | prune | work => exact scheduled.same rfl rfl fun _ => id
  | request free ready =>
      have none : before.upkeep.retryAt = none := by
        simp only [Upkeep.isReady, Bool.and_eq_true, Option.isNone_iff_eq_none] at ready
        exact ready.2
      exact scheduled.begin rfl (by simp [none])
  | retry free ready =>
      refine scheduled.begin rfl fun time there => ?_
      rw [Upkeep.isReady, Option.mem_def.mp there] at ready
      simpa using ready
  | decline turn | take turn | leave turn | commit _ turn | abort _ turn =>
      exact scheduled.same rfl rfl fun start member => by rw [turn]; exact member
  | note turn => exact scheduled.note turn
  | rotate free => exact scheduled.same rfl rfl nofun
  | rotated turn => exact scheduled.same rfl rfl nofun

theorem Scheduled.steps (scheduled : Scheduled before) (steps : Steps before after) :
    Scheduled after := by
  induction steps with
  | refl => exact scheduled
  | tail _ step ih => exact ih.step step

end Service

end QueryJournal
