import QueryJournal.Journal.Basic

namespace QueryJournal

open QueryJournal.Storage

/-!
The upkeep of an open log: the flushes that a full buffer asks for and rotations at an interval.
After a requested flush fails, requests wait until a retry. Times are in milliseconds of a clock
that runs on its own.
-/

/-- The pause between a failed requested flush and its retry. -/
def retryDelay : Nat := 10000

/-- The state of the upkeep: the interval between rotations, whether a flush is requested, the time
of a retry if one is due, and the time of the next rotation. -/
structure Upkeep where
  interval : Nat
  requested : Bool
  retryAt : Option Nat
  rotateAt : Nat
  deriving DecidableEq

/-- Something that the upkeep does. -/
inductive Chore where
  | request
  | retry
  | rotation
  deriving DecidableEq, Repr

/-- A log with its upkeep, which has ended if there is none, its directory and the clock. -/
structure Session where
  journal : Journal
  upkeep : Option Upkeep
  disk : Disk
  clock : Nat

namespace Upkeep

/-- The upkeep from a time on. The first rotation is a whole interval later. -/
def startingAt (clock interval : Nat) : Upkeep :=
  { interval, requested := false, retryAt := none, rotateAt := clock + interval }

def isReady (clock : Nat) (upkeep : Upkeep) : Chore → Bool
  | .request => upkeep.requested && upkeep.retryAt.isNone
  | .retry => upkeep.retryAt.any (· ≤ clock)
  | .rotation => upkeep.rotateAt ≤ clock

def afterFlush (clock : Nat) (upkeep : Upkeep) (answer : Except Failure Nat) : Upkeep :=
  { upkeep with
    retryAt := match answer with
      | .ok _ => none
      | .error _ => some (clock + retryDelay) }

def perform (occasion : Occasion) (clock : Nat) (chore : Chore) (upkeep : Upkeep)
    (journal : Journal) (disk : Disk) : Upkeep × Journal × Disk :=
  match chore with
  | .request =>
    let flushed := journal.serveFlush occasion false disk
    ({ upkeep with requested := false }.afterFlush clock flushed.answer, flushed.journal,
      flushed.disk)
  | .retry =>
    let flushed := journal.serveFlush occasion false disk
    (upkeep.afterFlush clock flushed.answer, flushed.journal, flushed.disk)
  | .rotation =>
    let rotated := journal.serveRotation occasion disk
    ({ upkeep with rotateAt := clock + upkeep.interval }, rotated.journal, rotated.disk)

end Upkeep

namespace Session

/-- A log that was just opened. Only a log that records to files has upkeep. -/
def ofJournal (journal : Journal) (disk : Disk) (clock : Nat) : Session :=
  { journal
    upkeep :=
      if journal.policy.enabled && journal.policy.fileEnabled then
        some (.startingAt clock (journal.policy.rotationSeconds * 1000))
      else none
    disk
    clock }

def openOn (policy : Policy) (obstacles : Obstacles) (disk : Disk) (clock : Nat) :
    Except Failure Session × Disk :=
  let (opened, disk) := Journal.openOn policy obstacles disk
  (opened.map fun journal => ofJournal journal disk clock, disk)

def performIfReady (occasion : Occasion) (session : Session) (chore : Chore) : Session :=
  match session.upkeep with
  | none => session
  | some upkeep =>
    if upkeep.isReady session.clock chore then
      let (upkeep, journal, disk) :=
        upkeep.perform occasion session.clock chore session.journal session.disk
      { session with upkeep := some upkeep, journal, disk }
    else session

/-- Lets the upkeep do all that it can do. A retry comes before a request, which it lets through
again, and a rotation makes neither of them ready. -/
def settle (occasion : Occasion) (session : Session) : Session :=
  [.retry, .request, .rotation].foldl (performIfReady occasion) session

def add (occasion : Occasion) (session : Session) (exchange : Exchange) : Session :=
  let (flushWanted, journal) := session.journal.add occasion.now exchange
  { session with
    journal
    upkeep := session.upkeep.map fun upkeep =>
      { upkeep with requested := upkeep.requested || flushWanted } }

def operate {α : Type} (session : Session) (operation : Journal → Disk → Outcome α) :
    Except Failure α × Session :=
  let outcome := operation session.journal session.disk
  (outcome.answer, { session with journal := outcome.journal, disk := outcome.disk })

/-- Closes the log, which ends its upkeep. -/
def close (occasion : Occasion) (session : Session) : Except Failure Unit × Session :=
  { session with upkeep := none }.operate (Journal.close occasion)

def advance (session : Session) (milliseconds : Nat) : Session :=
  { session with clock := session.clock + milliseconds }

/-- Opens another log on the directory in place of this one, whose entries in memory are lost. While
the new log looks into the directory the upkeep of this one still runs; what that writes the new
log does not know of. -/
def reopen (policy : Policy) (occasion : Occasion) (session : Session) :
    Except Failure Unit × Session :=
  match openOn policy occasion.obstacles session.disk session.clock with
  | (.error failure, disk) => (.error failure, { session with disk })
  | (.ok opened, disk) =>
    let left := { session with disk }
    let left := if policy.fileEnabled then left.performIfReady occasion .request else left
    (.ok (), { opened with disk := left.disk })

end Session

end QueryJournal
