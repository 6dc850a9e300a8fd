import QueryJournal.Proofs.Address.Network
import QueryJournal.Proofs.Journal.Course

namespace QueryJournal

open QueryJournal.Archive (plainPolicy)
open QueryJournal.Storage

/-!
A log that masks its clients cannot tell machines of one network apart. Two runs in which exchanges
come from different machines of the same networks are one run: all answers are the same, and so is
the state of the log and of its directory after each call.
-/

namespace Exchange

/-- Exchanges that differ in nothing but the machines of one network from which they come. -/
def Alike (left right : Exchange) : Prop :=
  right = { left with client := right.client } ∧ left.client.SameNetwork right.client

variable {left right : Exchange}

/-- The recorded entry, or why there is none, says no more of a client than its network. -/
theorem Alike.record_eq (alike : left.Alike right) (time : Time.Instant) :
    left.record true time = right.record true time := by
  have network := (Address.masked_eq_masked_iff _ _).mpr alike.2
  rw [alike.1]
  simp only [record, recordedClient, if_pos, network]

theorem Alike.symm (alike : left.Alike right) : right.Alike left := by
  obtain ⟨same, network⟩ := alike
  refine ⟨by rw [same], ?_⟩
  rw [← Address.masked_eq_masked_iff] at network ⊢
  exact network.symm

end Exchange

theorem Journal.add_eq_of_alike {journal : Journal} {left right : Exchange}
    (masks : journal.policy.masksClients = true) (alike : left.Alike right) (now : Time.Instant) :
    journal.add now left = journal.add now right := by
  rw [Journal.add, Journal.add, masks, alike.record_eq]

namespace Session

/-- What is asked of a log, what its upkeep does, and what others do to its directory. -/
inductive Call where
  | turn (turn : Turn)
  | search (clock : Search.Clock) (request : Search.Request)
  | close
  | reopen (policy : Policy)
  | meddle (change : Disk → Disk)

/-- What is answered to a call: nothing, whether it was done, how many records were written, or what
was found. -/
inductive Reply where
  | silent
  | done (answer : Except Failure Unit)
  | written (answer : Except Failure Nat)
  | found (answer : Except Failure Search.Report)

def replyTo (session : Session) (occasion : Occasion) : Call → Reply
  | .turn (.flush force) => .written (session.operate (Journal.flush occasion force)).1
  | .turn .rotate => .done (session.operate (Journal.rotate occasion)).1
  | .turn .clear => .done (session.operate (Journal.clear occasion)).1
  | .turn _ => .silent
  | .search clock request => .found (session.journal.search clock request session.disk)
  | .close => .done (session.close occasion).1
  | .reopen policy => .done (session.reopen policy occasion).1
  | .meddle _ => .silent

def afterCall (session : Session) (occasion : Occasion) : Call → Session
  | .turn turn => session.turn occasion turn
  | .search .. => session
  | .close => (session.close occasion).2
  | .reopen policy => (session.reopen policy occasion).2
  | .meddle change => { session with disk := change session.disk }

/-- All that can be seen of a run: what is answered to each call, and the log with its directory
after it. -/
def transcript (session : Session) : List (Occasion × Call) → List (Reply × Session)
  | [] => []
  | (occasion, call) :: later =>
    (session.replyTo occasion call, session.afterCall occasion call) ::
      (session.afterCall occasion call).transcript later

/-- Calls that differ in nothing but the machines of one network from which exchanges come. A log
that is opened anew masks its clients as well. -/
inductive Call.Alike : Call → Call → Prop where
  | add {left right : Exchange} (alike : left.Alike right) :
      Alike (.turn (.add left)) (.turn (.add right))
  | turn (turn : Turn) : Alike (.turn turn) (.turn turn)
  | search (clock : Search.Clock) (request : Search.Request) :
      Alike (.search clock request) (.search clock request)
  | close : Alike .close .close
  | reopen {policy : Policy} (masks : policy.masksClients = true) :
      Alike (.reopen policy) (.reopen policy)
  | meddle (change : Disk → Disk) : Alike (.meddle change) (.meddle change)

variable {session : Session} {left right : Call}

theorem add_eq_of_alike {left right : Exchange}
    (masks : session.journal.policy.masksClients = true) (alike : left.Alike right)
    (occasion : Occasion) : session.add occasion left = session.add occasion right := by
  rw [Session.add, Session.add, Journal.add_eq_of_alike masks alike]

theorem replyTo_eq_of_alike (alike : left.Alike right) (occasion : Occasion) :
    session.replyTo occasion left = session.replyTo occasion right := by
  cases alike <;> rfl

theorem afterCall_eq_of_alike (masks : session.journal.policy.masksClients = true)
    (alike : left.Alike right) (occasion : Occasion) :
    session.afterCall occasion left = session.afterCall occasion right := by
  cases alike with
  | add alike => exact add_eq_of_alike masks alike occasion
  | turn | search | close | reopen | meddle => rfl

theorem policy_close (session : Session) (occasion : Occasion) :
    (session.close occasion).2.journal.policy = session.journal.policy :=
  Archive.policy_close occasion session.journal session.disk

theorem reopen_cases (session : Session) (policy : Policy) (occasion : Occasion) :
    (session.reopen policy occasion).2.journal = session.journal ∨
      (session.reopen policy occasion).2.journal.policy = policy := by
  rw [reopen, openOn, Journal.openOn]
  dsimp only
  split
  · exact .inl rfl
  · rename_i opened _ found
    split at found
    · cases found
    · cases found
      exact .inr rfl

/-- No call makes a log unmask its clients. -/
theorem masks_afterCall (masks : session.journal.policy.masksClients = true)
    (alike : left.Alike right) (occasion : Occasion) :
    (session.afterCall occasion left).journal.policy.masksClients = true := by
  cases alike with
  | add | turn =>
      rw [afterCall, Service.policy_turn]
      exact masks
  | search | meddle => exact masks
  | close =>
      rw [afterCall, policy_close]
      exact masks
  | @reopen policy kept =>
      rw [afterCall]
      rcases session.reopen_cases policy occasion with same | new
      · rw [same]
        exact masks
      · rw [new]
        exact kept

theorem transcript_eq_of_alike {calls others : List (Occasion × Call)}
    (masks : session.journal.policy.masksClients = true)
    (alike : calls.Forall₂ (fun call other => call.1 = other.1 ∧ call.2.Alike other.2) others) :
    session.transcript calls = session.transcript others := by
  induction alike generalizing session with
  | nil => rfl
  | @cons call other calls others same _ ih =>
      obtain ⟨occasion, call⟩ := call
      obtain ⟨_, other⟩ := other
      obtain ⟨rfl, same⟩ := same
      rw [transcript, transcript, replyTo_eq_of_alike same,
        ih (masks_afterCall masks same occasion), afterCall_eq_of_alike masks same]

end Session

/-!
### While others are at work
-/

theorem Pipeline.Step.policy_eq {before after : Pipeline} {event : Ledger.Event}
    (step : Pipeline.Step before event after) :
    after.journal.policy = before.journal.policy := by
  cases step <;> rfl

namespace Service

/-- An exchange comes in, whatever is under way. -/
def receive (state : Service) (occasion : Occasion) (exchange : Exchange) : Service :=
  { state with
    pipeline :=
      { state.pipeline with journal := (state.pipeline.journal.add occasion.now exchange).2 }
    upkeep :=
      { state.upkeep with
        requested := state.upkeep.requested ||
          (state.pipeline.journal.add occasion.now exchange).1 } }

/-- Steps one after another, and exchanges that come in between any two of them, the last exchange
first. -/
inductive Intake (first : Service) : List Exchange → Service → Prop where
  | start : Intake first [] first
  | step {exchanges : List Exchange} {before after : Service}
      (earlier : Intake first exchanges before) (step : Step before after) :
      Intake first exchanges after
  | receive {exchanges : List Exchange} {state : Service} (earlier : Intake first exchanges state)
      (occasion : Occasion) (exchange : Exchange) :
      Intake first (exchange :: exchanges) (state.receive occasion exchange)

variable {first before after : Service} {exchanges others : List Exchange}

theorem policy_receive (state : Service) (occasion : Occasion) (exchange : Exchange) :
    (state.receive occasion exchange).pipeline.journal.policy = state.pipeline.journal.policy :=
  (Archive.sameSettings_add occasion exchange state.pipeline.journal).1

theorem Step.policy_eq (step : Step before after) :
    after.pipeline.journal.policy = before.pipeline.journal.policy := by
  cases step with
  | add occasion exchange => exact policy_receive before occasion exchange
  | operate step _ _ | take _ _ step | work _ step | commit _ _ step | abort _ _ step =>
      exact step.policy_eq
  | prune _ _ idle => rw [idle]
  | advance | request | retry | decline | leave | note | rotate | rotated => rfl

theorem Intake.policy_eq (intake : Intake first exchanges after) :
    after.pipeline.journal.policy = first.pipeline.journal.policy := by
  induction intake with
  | start => rfl
  | step _ step ih => exact step.policy_eq.trans ih
  | receive _ occasion exchange ih => exact (policy_receive _ occasion exchange).trans ih

/-- Where a run leads can be reached with exchanges from other machines just as well. -/
theorem Intake.alike (intake : Intake first exchanges after)
    (masks : first.pipeline.journal.policy.masksClients = true)
    (alike : exchanges.Forall₂ Exchange.Alike others) : Intake first others after := by
  induction intake generalizing others with
  | start =>
      cases alike
      exact .start
  | step _ step ih => exact .step (ih alike) step
  | @receive exchanges state earlier occasion exchange ih =>
      cases alike with
      | @cons _ other _ others same alike =>
          have masked : state.pipeline.journal.policy.masksClients = true := by
            rw [earlier.policy_eq]
            exact masks
          have received : state.receive occasion exchange = state.receive occasion other := by
            rw [Service.receive, Service.receive, Journal.add_eq_of_alike masked same]
          rw [received]
          exact .receive (ih alike) occasion other

end Service

namespace Session

/-- Where clients are masked, runs on the same directory, at the same times and under the same
failures are the same if their calls differ in nothing but the machines of one network from which
exchanges come: every answer, every search that is made, every counter, every record in memory and
every byte in the directory. This holds as well where exchanges come in while flushes and rotations
are under way. What is masked already is not changed by masking it again. -/
theorem machines_leave_no_trace {session : Session}
    (masks : session.journal.policy.masksClients = true) :
    (∀ calls others : List (Occasion × Call),
      calls.Forall₂ (fun call other => call.1 = other.1 ∧ call.2.Alike other.2) others →
        session.transcript calls = session.transcript others) ∧
    (∀ (upkeep : Upkeep) (exchanges others : List Exchange) (last : Service),
      exchanges.Forall₂ Exchange.Alike others →
        ((Service.ofSession session upkeep []).Intake exchanges last ↔
          (Service.ofSession session upkeep []).Intake others last)) ∧
    ∀ address : Address, address.masked.masked = address.masked := by
  refine ⟨fun calls others alike => transcript_eq_of_alike masks alike,
    fun upkeep exchanges others last alike => ⟨fun intake => intake.alike masks alike,
      fun intake => intake.alike masks ?_⟩, Address.masked_masked⟩
  exact alike.flip.imp fun _ _ => Exchange.Alike.symm

def maskingPolicy : Policy :=
  { plainPolicy with masksClients := true }

/-- An exchange comes in from some machine, its record is searched for and written. -/
def callsFrom (machine : UInt8) : List (Occasion × Call) :=
  [({ now := default },
      .turn (.add { question := default, client := .v4 192 168 7 machine })),
    ({ now := default }, .search (fun _ => 0) {}),
    ({ now := default }, .turn (.flush true))]

theorem alike_callsFrom (left right : UInt8) :
    (callsFrom left).Forall₂ (fun call other => call.1 = other.1 ∧ call.2.Alike other.2)
      (callsFrom right) := by
  have network : (Address.v4 192 168 7 left).SameNetwork (.v4 192 168 7 right) := by
    rw [← Address.masked_eq_masked_iff]
    rfl
  exact .cons ⟨rfl, .add ⟨rfl, network⟩⟩
    (.cons ⟨rfl, .search _ _⟩ (.cons ⟨rfl, .turn _⟩ .nil))

def Reply.clients : Reply → List Address
  | .found (.ok report) => report.page.entries.map Entry.client
  | _ => []

/-- Two machines of one network leave the same transcript, in which their record is found under the
address of the network. -/
theorem two_machines_leave_no_trace :
    let session := ofJournal (Pipeline.fresh maskingPolicy).journal {} 0
    session.transcript (callsFrom 23) = session.transcript (callsFrom 42) ∧
      (session.transcript (callsFrom 23)).flatMap (fun seen => seen.1.clients) =
        [.v4 192 168 7 0] := by
  intro session
  have masks : session.journal.policy.masksClients = true := rfl
  exact ⟨(machines_leave_no_trace masks).1 _ _ (alike_callsFrom 23 42), by decide +kernel⟩

end Session

end QueryJournal
