import QueryJournal.Proofs.Journal.History
import QueryJournal.Proofs.Journal.Service

namespace QueryJournal

open QueryJournal.Archive (plainPolicy sameSettings_add sameSettings_clear sameSettings_serveFlush
  sameSettings_serveRotation sameSettings_whileOpen)
open QueryJournal.Pipeline (Quietly idle)
open QueryJournal.Storage

/-!
A session of a log is a service in which everything is done in one go. So what a service keeps alive
a session does, in whatever order its upkeep takes up the chores that are ready.
-/

namespace Session

/-- What happens to an open log. -/
inductive Turn where
  | add (exchange : Exchange)
  | flush (force : Bool)
  | rotate
  | clear
  | advance (milliseconds : Nat)
  | chore (chore : Chore)

def turn (session : Session) (occasion : Occasion) : Turn → Session
  | .add exchange => session.add occasion exchange
  | .flush force => (session.operate (Journal.flush occasion force)).2
  | .rotate => (session.operate (Journal.rotate occasion)).2
  | .clear => (session.operate (Journal.clear occasion)).2
  | .advance milliseconds => session.advance milliseconds
  | .chore chore => session.performIfReady occasion chore

/-- The requested flush that a turn attempts, if it does. -/
def attempt? (session : Session) (occasion : Occasion) : Turn → Option Attempt
  | .chore .rotation => none
  | .chore chore =>
    if session.upkeep.any (·.isReady session.clock chore) then
      some (.ofAnswer session.clock session.clock
        (session.journal.serveFlush occasion false session.disk).answer)
    else none
  | _ => none

/-- Turns one after another, and the requested flushes that they attempted, the last one first. -/
inductive Course (first : Session) : List Attempt → Session → Prop where
  | start : Course first [] first
  | turn {attempts : List Attempt} {session : Session} (earlier : Course first attempts session)
      (occasion : Occasion) (turn : Turn) :
      Course first ((session.attempt? occasion turn).toList ++ attempts)
        (session.turn occasion turn)

end Session

namespace Service

variable (state : Service) {journal : Journal} {disk : Disk} {first last : Pipeline}
  {event : Ledger.Event} {occasion : Occasion}

/-- A session between its turns. -/
def ofSession (session : Session) (upkeep : Upkeep) (attempts : List Attempt) : Service :=
  { pipeline := idle session.journal session.disk
    upkeep
    duty := .idle
    clock := session.clock
    attempts }

/-!
### Operations of others
-/

theorem step_operated (free : ∀ begun, state.duty ≠ .flushing begun)
    (step : Pipeline.Step first event last) (quiet : event.entry? = none) :
    Step { state with pipeline := first } { state with pipeline := last } :=
  .operate step quiet free

theorem step_pruned (journal : Journal) (disk : Disk) (kept : Option Nat) (obstacles : Obstacles) :
    Step { state with pipeline := idle journal disk }
      { state with
        pipeline := idle { journal with catalog := (journal.catalog.prune kept).2 }
          (Journal.removeAll obstacles disk (journal.catalog.prune kept).1).2 } :=
  .prune kept obstacles rfl

theorem steps_quietly (free : ∀ begun, state.duty ≠ .flushing begun) (quiet : Quietly first last) :
    Steps { state with pipeline := first } { state with pipeline := last } := by
  induction quiet with
  | refl => exact .refl
  | @tail middle last _ step ih =>
      exact ih.tail (step_operated state free step rfl)

theorem steps_flushBuffer (free : ∀ begun, state.duty ≠ .flushing begun) (occasion : Occasion)
    (force : Bool) (journal : Journal) (disk : Disk) :
    Steps { state with pipeline := idle journal disk }
      { state with
        pipeline := idle (journal.flushBuffer occasion force disk).journal
          (journal.flushBuffer occasion force disk).disk } := by
  have taken : Steps { state with pipeline := idle journal disk }
      { state with
        pipeline :=
          { journal := { journal with buffer := journal.buffer.pending.2 }
            disk
            phase := .taken journal.buffer.pending.1 } } :=
    .single (step_operated state free .take rfl)
  rw [Journal.flushBuffer]
  split
  · exact .refl
  · dsimp only
    split
    · rename_i empty
      rw [List.isEmpty_iff.mp empty] at taken
      exact taken.tail (step_operated state free .leave rfl)
    · split
      · rename_i refused
        have failed := steps_quietly state free (Pipeline.writeBatch_error refused)
        exact (taken.trans failed).tail (step_operated state free .abort rfl)
      · rename_i written
        obtain ⟨⟨writer, present, rfl⟩, landed⟩ := Pipeline.writeBatch_ok written
        exact (taken.trans (steps_quietly state free landed)).tail
          (step_operated state free (.commit present) rfl)

theorem steps_serveFlush (free : ∀ begun, state.duty ≠ .flushing begun) (occasion : Occasion)
    (force : Bool) (journal : Journal) (disk : Disk) :
    Steps { state with pipeline := idle journal disk }
      { state with
        pipeline := idle (journal.serveFlush occasion force disk).journal
          (journal.serveFlush occasion force disk).disk } := by
  rw [Journal.serveFlush]
  split
  · exact steps_flushBuffer state free occasion force journal disk
  · exact .refl

theorem steps_serveRotation (free : ∀ begun, state.duty ≠ .flushing begun) (occasion : Occasion)
    (journal : Journal) (disk : Disk) :
    Steps { state with pipeline := idle journal disk }
      { state with
        pipeline := idle (journal.serveRotation occasion disk).journal
          (journal.serveRotation occasion disk).disk } := by
  have flushed := steps_flushBuffer state free occasion true journal disk
  rw [Journal.serveRotation]
  split
  · dsimp only
    split
    · exact flushed
    · split
      · exact flushed
      · have closed := flushed.tail (step_operated state free .close rfl)
        let flushed := (journal.flushBuffer occasion true disk).journal
        exact closed.tail (step_pruned state
          { flushed with catalog := flushed.catalog.closeActive.2, writer := none } _ _ _)
  · exact .refl

theorem steps_clear (free : ∀ begun, state.duty ≠ .flushing begun) (occasion : Occasion)
    (journal : Journal) (disk : Disk) :
    Steps { state with pipeline := idle journal disk }
      { state with
        pipeline := idle (journal.clear occasion disk).journal
          (journal.clear occasion disk).disk } := by
  rw [Journal.clear, Journal.whileOpen]
  split
  · exact .refl
  · have cleared : Steps { state with pipeline := idle journal disk } _ :=
      .single (step_operated state free .clear rfl)
    exact cleared.trans (steps_quietly state free
      (Pipeline.removeAll_run _ occasion.obstacles _ disk))

theorem steps_whileOpen {α : Type} {operation : Outcome α}
    (steps : Steps { state with pipeline := idle journal disk }
      { state with pipeline := idle operation.journal operation.disk }) :
    Steps { state with pipeline := idle journal disk }
      { state with
        pipeline := idle (journal.whileOpen disk operation).journal
          (journal.whileOpen disk operation).disk } := by
  rw [Journal.whileOpen]
  split
  · exact .refl
  · exact steps

/-!
### Chores of the upkeep
-/

theorem step_worked {begun : Nat} (turn : state.duty = .flushing begun)
    (step : Pipeline.Step first .silent last) :
    Step { state with pipeline := first } { state with pipeline := last } :=
  .work turn step

theorem steps_work {begun : Nat} (turn : state.duty = .flushing begun)
    (quiet : Quietly first last) :
    Steps { state with pipeline := first } { state with pipeline := last } := by
  induction quiet with
  | refl => exact .refl
  | @tail middle last _ step ih =>
      exact ih.tail (step_worked state turn step)

/-- A requested flush that nobody stands in the way of leads to the answer that it gives. -/
theorem steps_requested (begun : Nat) (occasion : Occasion) (journal : Journal) (disk : Disk) :
    Steps { state with pipeline := idle journal disk, duty := .waiting begun }
      { state with
        pipeline := idle (journal.flushBuffer occasion false disk).journal
          (journal.flushBuffer occasion false disk).disk
        duty := .flushed begun (journal.flushBuffer occasion false disk).answer } := by
  rw [Journal.flushBuffer]
  split
  · rename_i unasked
    have quiet : journal.buffer.flushPending = false := by simpa using unasked
    exact .single (.decline rfl rfl quiet)
  · rename_i asked
    have asks : journal.buffer.flushPending = true := by simpa using asked
    have taken : Steps { state with pipeline := idle journal disk, duty := .waiting begun }
        { state with
          pipeline :=
            { journal := { journal with buffer := journal.buffer.pending.2 }
              disk
              phase := .taken journal.buffer.pending.1 }
          duty := .flushing begun } := .single (.take rfl asks .take)
    dsimp only
    split
    · rename_i empty
      rw [List.isEmpty_iff.mp empty] at taken
      exact (taken.tail (.work rfl .leave)).tail (.leave rfl rfl)
    · split
      · rename_i failure refused
        have failed := steps_work { state with duty := .flushing begun } rfl
          (Pipeline.writeBatch_error refused)
        exact (taken.trans failed).tail (.abort failure rfl .abort)
      · rename_i written
        obtain ⟨⟨writer, present, rfl⟩, landed⟩ := Pipeline.writeBatch_ok written
        have written := steps_work { state with duty := .flushing begun } rfl landed
        exact (taken.trans written).tail (.commit _ rfl (.commit present))

/-- The upkeep serves a flush that it has begun, and takes note of the answer. -/
theorem steps_served (files : journal.policy.fileEnabled = true) (begun : Nat)
    (occasion : Occasion) (disk : Disk) :
    Steps { state with pipeline := idle journal disk, duty := .waiting begun }
      { state with
        pipeline := idle (journal.serveFlush occasion false disk).journal
          (journal.serveFlush occasion false disk).disk
        upkeep := state.upkeep.afterFlush state.clock
          (journal.serveFlush occasion false disk).answer
        duty := .idle
        attempts := .ofAnswer begun state.clock
          (journal.serveFlush occasion false disk).answer :: state.attempts } := by
  rw [Journal.serveFlush, if_pos files]
  exact (steps_requested state begun occasion journal disk).tail (.note rfl)

variable {session : Session} {upkeep : Upkeep}

/-- A chore that is ready is done in steps. -/
theorem steps_chore (present : session.upkeep = some upkeep)
    (files : session.journal.policy.fileEnabled = true) (attempts : List Attempt)
    (occasion : Occasion) (chore : Chore) :
    ∃ next, (session.performIfReady occasion chore).upkeep = some next ∧
      Steps (ofSession session upkeep attempts)
        (ofSession (session.performIfReady occasion chore) next
          ((session.attempt? occasion (.chore chore)).toList ++ attempts)) := by
  rw [Session.performIfReady, present]
  by_cases ready : upkeep.isReady session.clock chore = true
  · simp only [if_pos ready]
    refine ⟨_, rfl, ?_⟩
    cases chore with
    | request =>
        have begun : Steps (ofSession session upkeep attempts) _ := .single (.request rfl ready)
        have served := steps_served
          { ofSession session upkeep attempts with upkeep := { upkeep with requested := false } }
          files session.clock occasion session.disk
        simp only [Session.attempt?, present, Option.any_some, if_pos ready]
        exact begun.trans served
    | retry =>
        have begun : Steps (ofSession session upkeep attempts) _ := .single (.retry rfl ready)
        simp only [Session.attempt?, present, Option.any_some, if_pos ready]
        exact begun.trans (steps_served (ofSession session upkeep attempts) files session.clock
          occasion session.disk)
    | rotation =>
        have begun : Steps (ofSession session upkeep attempts) _ := .single (.rotate rfl ready)
        have rotated := steps_serveRotation
          { ofSession session upkeep attempts with duty := .rotating } nofun occasion
          session.journal session.disk
        exact (begun.trans rotated).tail (.rotated rfl)
  · simp only [if_neg ready]
    refine ⟨upkeep, present, ?_⟩
    cases chore <;> simp only [Session.attempt?, present, Option.any_some, if_neg ready] <;>
      exact .refl

/-- Each turn of a session is done in steps. -/
theorem steps_turn (present : session.upkeep = some upkeep)
    (files : session.journal.policy.fileEnabled = true) (attempts : List Attempt)
    (occasion : Occasion) (turn : Session.Turn) :
    ∃ next, (session.turn occasion turn).upkeep = some next ∧
      Steps (ofSession session upkeep attempts)
        (ofSession (session.turn occasion turn) next
          ((session.attempt? occasion turn).toList ++ attempts)) := by
  let state := ofSession session upkeep attempts
  have free : ∀ begun, state.duty ≠ .flushing begun := nofun
  cases turn with
  | add exchange =>
      refine ⟨_, by rw [Session.turn, Session.add, present]; rfl, ?_⟩
      exact .single (.add state occasion exchange)
  | flush force =>
      exact ⟨upkeep, present, steps_whileOpen state
        (steps_serveFlush state free occasion force session.journal session.disk)⟩
  | rotate =>
      exact ⟨upkeep, present, steps_whileOpen state
        (steps_serveRotation state free occasion session.journal session.disk)⟩
  | clear =>
      exact ⟨upkeep, present, steps_clear state free occasion session.journal session.disk⟩
  | advance milliseconds =>
      exact ⟨upkeep, present, .single (.advance state milliseconds)⟩
  | chore chore => exact steps_chore present files attempts occasion chore

/-!
### From the opening on
-/

theorem policy_turn (session : Session) (occasion : Occasion) (turn : Session.Turn) :
    (session.turn occasion turn).journal.policy = session.journal.policy := by
  cases turn with
  | add exchange => exact (sameSettings_add occasion exchange session.journal).1
  | flush force =>
      exact (sameSettings_whileOpen (sameSettings_serveFlush occasion force _ _) session.disk).1
  | rotate =>
      exact (sameSettings_whileOpen (sameSettings_serveRotation occasion _ _) session.disk).1
  | clear => exact (sameSettings_clear occasion session.journal session.disk).1
  | advance milliseconds => rfl
  | chore chore =>
      rw [Session.turn, Session.performIfReady]
      split
      · rfl
      · split
        · cases chore with
          | request | retry => exact (sameSettings_serveFlush occasion false _ _).1
          | rotation => exact (sameSettings_serveRotation occasion _ _).1
        · rfl

/-- Whatever a session does is done in steps. -/
theorem steps_course {start later : Session} {attempts : List Attempt}
    (files : start.journal.policy.fileEnabled = true) (present : start.upkeep = some upkeep)
    (course : start.Course attempts later) :
    ∃ next, later.upkeep = some next ∧
      Steps (ofSession start upkeep []) (ofSession later next attempts) := by
  suffices invariant : later.journal.policy = start.journal.policy ∧ _ from invariant.2
  induction course with
  | start => exact ⟨rfl, upkeep, present, .refl⟩
  | @turn attempts session _ occasion turn ih =>
      obtain ⟨same, current, running, steps⟩ := ih
      obtain ⟨next, still, further⟩ := steps_turn running (same ▸ files) attempts occasion turn
      exact ⟨(policy_turn session occasion turn).trans same, next, still, steps.trans further⟩

/-- A log that is opened to record to files has upkeep, and nobody has asked for anything yet. -/
theorem upkeep_openOn {policy : Policy} {obstacles : Obstacles} {after : Disk} {clock : Nat}
    (enabled : policy.enabled = true) (files : policy.fileEnabled = true)
    (opened : Session.openOn policy obstacles disk clock = (.ok session, after)) :
    session.upkeep = some (.startingAt clock (policy.rotationSeconds * 1000)) ∧
      session.journal.policy = policy ∧
      session.journal.buffer = Buffer.new policy.memorySize true := by
  rw [Session.openOn, Journal.openOn, if_pos files] at opened
  dsimp only at opened
  split at opened
  · cases opened
  · cases opened
    refine ⟨?_, rfl, ?_⟩
    · simp [Session.ofJournal, enabled, files]
    · simp [Session.ofJournal, files]

variable {state : Service}

/-- A flush that the buffer asks for is on its way, in its time. -/
structure Tended (state : Service) : Prop where
  /-- Somebody remembers it. -/
  remembered : state.pipeline.journal.buffer.flushPending = true →
    state.upkeep.requested = true ∨ state.upkeep.retryAt.isSome = true ∨
      state.duty.begun?.isSome = true
  /-- Once nothing is left to be done, only a failed flush leaves the buffer full. -/
  settled : state.duty = .idle →
    (∀ chore, state.upkeep.isReady state.clock chore = false) →
    state.pipeline.journal.buffer.capacity ≤ state.pipeline.journal.buffer.entries.size →
    ∃ attempt, state.attempts.head? = some attempt ∧ attempt.failed = true ∧
      state.upkeep.retryAt = some (attempt.ended + retryDelay)
  /-- The flush that is under way did not begin before a retry that was scheduled. -/
  waited : ∀ begun ∈ state.duty.begun?, ∀ time ∈ state.upkeep.retryAt, time ≤ begun
  /-- After a failure each next flush waited for the retry. -/
  spaced : state.attempts.IsChain fun later earlier =>
    earlier.failed = true → earlier.ended + retryDelay ≤ later.begun

theorem Heeded.tended (heeded : Heeded state) (scheduled : Scheduled state) : Tended state := by
  obtain ⟨persistent, attentive, _, heeds⟩ := heeded
  refine
    { remembered := fun asks => ?_
      settled := fun free settled full => ?_
      waited := scheduled.begun
      spaced := scheduled.spaced }
  · cases duty : state.duty with
    | idle | rotating =>
        rw [duty] at heeds
        exact (heeds asks).imp_right .inl
    | waiting | flushing | flushed => exact .inr (.inr rfl)
  · rw [free] at heeds
    have asks : state.pipeline.journal.buffer.flushPending = true :=
      attentive.asks.trans ((Buffer.isFull_iff _ _).mpr ⟨persistent, full⟩)
    have retry : state.upkeep.retryAt.isSome = true := by
      rcases heeds asks with requested | retry
      · have unready := settled .request
        rwa [Upkeep.isReady, requested, Bool.true_and, ← Option.not_isSome, Bool.not_eq_false']
          at unready
      · exact retry
    have noted := scheduled.retryAt
    cases attempts : state.attempts.head? with
    | none =>
        rw [attempts] at noted
        rw [noted] at retry
        cases retry
    | some attempt =>
        rw [attempts] at noted
        cases failed : attempt.failed with
        | false =>
            rw [noted, Option.filter_some_neg failed] at retry
            cases retry
        | true =>
            rw [Option.filter_some_pos failed] at noted
            exact ⟨attempt, rfl, failed, noted⟩

/-- From the opening of a log on, whatever is done and however it is interleaved, a flush that the
buffer asks for is on its way, and so it is in every session. -/
theorem requests_never_lost {policy : Policy} {obstacles : Obstacles} {after : Disk} {clock : Nat}
    (enabled : policy.enabled = true) (files : policy.fileEnabled = true)
    (opened : Session.openOn policy obstacles disk clock = (.ok session, after)) :
    ∃ upkeep, session.upkeep = some upkeep ∧
      (∀ later, Steps (ofSession session upkeep []) later → Tended later) ∧
      ∀ attempts later, session.Course attempts later →
        ∃ next, later.upkeep = some next ∧
          Steps (ofSession session upkeep []) (ofSession later next attempts) ∧
          Tended (ofSession later next attempts) := by
  obtain ⟨present, same, fresh⟩ := upkeep_openOn enabled files opened
  have heeded :
      Heeded (ofSession session (.startingAt clock (policy.rotationSeconds * 1000)) []) :=
    { persistent := by rw [ofSession, idle, fresh]; rfl
      attentive := by rw [ofSession, idle, fresh]; exact Buffer.attentive_new _ _
      flying := by rw [ofSession, idle, fresh]; rfl
      heeds := by
        rw [ofSession, idle, fresh]
        exact fun asks => absurd asks Bool.false_ne_true }
  have scheduled :
      Scheduled (ofSession session (.startingAt clock (policy.rotationSeconds * 1000)) []) :=
    { retryAt := rfl
      begun := fun _ absent => absurd absent (Option.not_mem_none _)
      spaced := .nil }
  have tended : ∀ later, Steps (ofSession session _ []) later → Tended later :=
    fun later steps => (heeded.steps steps).tended (scheduled.steps steps)
  refine ⟨_, present, tended, fun attempts later course => ?_⟩
  obtain ⟨next, still, steps⟩ := steps_course (same ▸ files) present course
  exact ⟨next, still, steps, tended _ steps⟩

def dailyPolicy : Policy :=
  { plainPolicy with rotationSeconds := 86400 }

def dailySession : Session :=
  .ofJournal (Pipeline.fresh dailyPolicy).journal {} 0

/-- An exchange has filled the buffer, and its record waits to be written. -/
def fullSession : Session :=
  dailySession.turn { now := default } (.add { question := default, client := default })

/-- The record could not be written to its end. -/
def failedSession : Session :=
  fullSession.turn { now := default, obstacles := { growthLimit := some 3 } } (.chore .request)

theorem requests_never_lost_failed :
    failedSession.journal.buffered = 1 ∧
      ∃ upkeep, failedSession.upkeep = some upkeep ∧ upkeep.retryAt = some retryDelay := by
  have opened : Session.openOn dailyPolicy .none {} 0 = (.ok dailySession, {}) := by
    simp [Session.openOn, Journal.openOn, Disk.list, Segment.discover, Segment.sorted,
      Catalog.ofExisting, Catalog.prune, Pipeline.fresh, dailySession, dailyPolicy, plainPolicy,
      Except.map]
    exact ⟨rfl, rfl⟩
  have tried : (fullSession.attempt? { now := default, obstacles := { growthLimit := some 3 } }
      (.chore .request)).toList ++ [] = [{ begun := 0, ended := 0, failed := true }] := by
    decide +kernel
  have filled : dailySession.Course [] fullSession :=
    .turn .start { now := default } (.add { question := default, client := default })
  have course := filled.turn { now := default, obstacles := { growthLimit := some 3 } }
    (.chore .request)
  obtain ⟨_, _, _, courses⟩ := requests_never_lost rfl rfl opened
  obtain ⟨upkeep, still, _, tended⟩ := courses _ failedSession (tried ▸ course)
  have full : failedSession.journal.buffer.capacity ≤
      failedSession.journal.buffer.entries.size := by decide +kernel
  have unready : failedSession.upkeep.all fun upkeep =>
      [Chore.request, .retry, .rotation].all (!upkeep.isReady 0 ·) := by decide +kernel
  rw [still] at unready
  have settled : ∀ chore, upkeep.isReady 0 chore = false := by
    intro chore
    have member : chore ∈ [Chore.request, .retry, .rotation] := by cases chore <;> decide
    simpa using List.all_eq_true.mp unready chore member
  obtain ⟨attempt, last, _, retryAt⟩ := tended.settled rfl settled full
  cases last
  exact ⟨by decide +kernel, upkeep, still, retryAt⟩

end Service

end QueryJournal
