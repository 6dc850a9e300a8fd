import QueryJournal.Failure
import QueryJournal.Proofs.Journal.Room
import QueryJournal.Search.Page

namespace QueryJournal

/-!
What a log is taken to hold: its records in the order in which they came. Writing only moves the
border between those in files and those in memory, so the records change when one is appended,
which may cost older ones their place, and when all are cleared.
-/

/-- The records of a log, oldest first. The first `written` are in files, the next `inFlight` are
being written, and of those after them no more than `ceiling` may be there. In files there are also
`unread` lines that hold no record. -/
@[ext]
structure Ledger where
  records : List Entry
  written : Nat
  inFlight : Nat
  ceiling : Nat
  unread : Nat
  covered : written + inFlight ≤ records.length

namespace Ledger

/-- What happens to a log, as far as its ledger is concerned. -/
inductive Event where
  | appended (entry : Entry)
  | taken
  | committed
  | aborted
  | cleared
  | silent

def Event.entry? : Event → Option Entry
  | .appended entry => some entry
  | _ => none

def stored (ledger : Ledger) : List Entry :=
  ledger.records.take ledger.written

/-- The records that are in memory only. -/
def waiting (ledger : Ledger) : List Entry :=
  ledger.records.drop ledger.written

/-- How many of the oldest records that are neither written nor being written have to go before
another one comes. -/
def excess (ledger : Ledger) : Nat :=
  let free := ledger.records.length - (ledger.written + ledger.inFlight)
  min free (free + 1 - ledger.ceiling)

def append (ledger : Ledger) (entry : Entry) : Ledger :=
  let kept := ledger.written + ledger.inFlight
  { ledger with
    records := ledger.records.take kept ++ ledger.records.drop (kept + ledger.excess) ++ [entry]
    covered := by
      have covered := ledger.covered
      simp only [kept, List.length_append, List.length_take]
      omega }

/-- The ledger after an exchange came in, which adds its entry if there is one. -/
def added {cause : Type} (ledger : Ledger) : Except cause Entry → Ledger
  | .error _ => ledger
  | .ok entry => ledger.append entry

def after (ledger : Ledger) : Event → Ledger
  | .appended entry => ledger.append entry
  | .taken =>
    { ledger with
      inFlight := ledger.records.length - ledger.written
      covered := by
        have covered := ledger.covered
        omega }
  | .committed =>
    { ledger with
      written := ledger.written + ledger.inFlight
      inFlight := 0
      covered := ledger.covered }
  | .aborted =>
    { ledger with
      inFlight := 0
      covered := Nat.le_trans (Nat.le_add_right _ _) ledger.covered }
  | .cleared =>
    { ledger with
      records := []
      written := 0
      inFlight := 0
      unread := 0
      covered := Nat.le_refl _ }
  | .silent => ledger

def afterAll (ledger : Ledger) (events : List Event) : Ledger :=
  events.foldl after ledger

def persisted (ledger : Ledger) : Ledger :=
  { ledger with
    written := ledger.records.length
    inFlight := 0
    covered := Nat.le_refl _ }

/-- The ledger after a flush that gave an answer. A flush that succeeds has written everything,
unless it was not forced and answers that there was nothing to do. -/
def settled (ledger : Ledger) (force : Bool) : Except Failure Nat → Ledger
  | .error _ => ledger
  | .ok count => if force || count != 0 then ledger.persisted else ledger

/-- The answer to a search for everything: the records, the newest one first. -/
def page (ledger : Ledger) : Search.Page :=
  { entries := ledger.records.reverse
    matched := ledger.records.length
    oldest := ledger.records.head?.map Entry.time
    skipped := ledger.unread
    truncated := false }

variable {ledger : Ledger} {entry : Entry}

theorem stored_append_waiting (ledger : Ledger) :
    ledger.stored ++ ledger.waiting = ledger.records :=
  List.take_append_drop _ _

theorem afterAll_append (ledger : Ledger) (earlier later : List Event) :
    ledger.afterAll (earlier ++ later) = (ledger.afterAll earlier).afterAll later :=
  List.foldl_append

theorem length_append (ledger : Ledger) (entry : Entry) :
    (ledger.append entry).records.length + ledger.excess = ledger.records.length + 1 := by
  have covered := ledger.covered
  have bound : ledger.excess ≤ ledger.records.length - (ledger.written + ledger.inFlight) :=
    Nat.min_le_left _ _
  simp only [append, List.length_append, List.length_take, List.length_drop, List.length_singleton]
  omega

/-- No event brings a record twice, or in another place than behind those that were there. -/
theorem sublist_after (ledger : Ledger) (event : Event) :
    (ledger.after event).records.Sublist (ledger.records ++ event.entry?.toList) := by
  cases event with
  | appended entry =>
      have kept : (ledger.records.take (ledger.written + ledger.inFlight) ++
          ledger.records.drop (ledger.written + ledger.inFlight + ledger.excess)).Sublist
            ledger.records := by
        have whole := List.take_append_drop (ledger.written + ledger.inFlight) ledger.records
        conv => rhs; rw [← whole]
        rw [← List.drop_drop]
        exact (List.Sublist.refl _).append (List.drop_sublist _ _)
      exact kept.append (List.Sublist.refl [entry])
  | cleared => exact List.nil_sublist _
  | taken | committed | aborted | silent => exact List.sublist_append_left _ _

theorem sublist_afterAll (ledger : Ledger) (events : List Event) :
    (ledger.afterAll events).records.Sublist
      (ledger.records ++ events.filterMap Event.entry?) := by
  induction events generalizing ledger with
  | nil => simp [afterAll]
  | cons event events ih =>
      have later := ih (ledger.after event)
      have here := (ledger.sublist_after event).append
        (List.Sublist.refl (events.filterMap Event.entry?))
      have joined : event.entry?.toList ++ events.filterMap Event.entry? =
          (event :: events).filterMap Event.entry? := by
        cases event <;> rfl
      rw [List.append_assoc, joined] at here
      exact later.trans here

theorem stored_append (ledger : Ledger) (entry : Entry) :
    (ledger.append entry).stored = ledger.stored := by
  have covered := ledger.covered
  simp only [stored, append, List.append_assoc]
  rw [List.take_append_of_le_length, List.take_take, Nat.min_eq_left (Nat.le_add_right _ _)]
  rw [List.length_take]
  omega

/-- In memory an append drops the oldest records that are not being written. -/
theorem waiting_append (ledger : Ledger) (entry : Entry) :
    (ledger.append entry).waiting =
      ledger.waiting.take ledger.inFlight ++
        ledger.waiting.drop (ledger.inFlight + ledger.excess) ++ [entry] := by
  have covered := ledger.covered
  have short : ledger.written ≤ (ledger.records.take (ledger.written + ledger.inFlight)).length := by
    rw [List.length_take]
    omega
  simp only [waiting, append, List.append_assoc]
  rw [List.drop_append_of_le_length short, List.drop_take, List.drop_drop]
  simp only [Nat.add_sub_cancel_left, Nat.add_assoc]

theorem stored_committed (ledger : Ledger) :
    (ledger.after .committed).stored =
      ledger.stored ++ ledger.waiting.take ledger.inFlight := by
  simp only [stored, waiting, after]
  rw [List.take_add]

theorem waiting_committed (ledger : Ledger) :
    (ledger.after .committed).waiting = ledger.waiting.drop ledger.inFlight := by
  simp only [waiting, after, List.drop_drop]

theorem length_waiting (ledger : Ledger) :
    ledger.waiting.length = ledger.records.length - ledger.written :=
  List.length_drop

theorem inFlight_le (ledger : Ledger) : ledger.inFlight ≤ ledger.waiting.length := by
  have covered := ledger.covered
  rw [length_waiting]
  omega

end Ledger

namespace Buffer

variable {buffer : Buffer Entry} {ledger : Ledger} {entry : Entry}

/-- The buffer holds what the ledger has in memory. -/
structure Holds (buffer : Buffer Entry) (ledger : Ledger) : Prop where
  entries : buffer.entries.toList = ledger.waiting
  inFlight : buffer.inFlight = ledger.inFlight
  ceiling : buffer.ceiling = ledger.ceiling

theorem Holds.size (holds : buffer.Holds ledger) :
    buffer.entries.size = ledger.waiting.length := by
  rw [← holds.entries, Array.length_toList]

theorem Holds.excess (holds : buffer.Holds ledger) : buffer.excess = ledger.excess := by
  have covered := ledger.covered
  have size := holds.size
  rw [Ledger.length_waiting] at size
  simp only [Buffer.excess, Ledger.excess, holds.inFlight, holds.ceiling, size]
  omega

theorem Holds.append (holds : buffer.Holds ledger) (entry : Entry) :
    (buffer.append entry).2.Holds (ledger.append entry) :=
  { entries := by
      rw [toList_append, Ledger.waiting_append, holds.entries, holds.inFlight, holds.excess]
    inFlight := by
      rw [inFlight_append]
      exact holds.inFlight
    ceiling := (ceiling_append buffer entry).trans holds.ceiling }

theorem Holds.pending (holds : buffer.Holds ledger) :
    buffer.pending.1 = ledger.waiting ∧ buffer.pending.2.Holds (ledger.after .taken) :=
  ⟨holds.entries,
    { entries := holds.entries
      inFlight := by
        simp only [Buffer.pending, Ledger.after, holds.size, Ledger.length_waiting]
      ceiling := holds.ceiling }⟩

theorem Holds.commit (holds : buffer.Holds ledger) :
    buffer.commit.Holds (ledger.after .committed) :=
  { entries := by
      rw [Ledger.waiting_committed, ← holds.entries, ← holds.inFlight, toList_commit]
    inFlight := rfl
    ceiling := holds.ceiling }

theorem Holds.abort (holds : buffer.Holds ledger) : buffer.abort.Holds (ledger.after .aborted) :=
  { entries := holds.entries
    inFlight := rfl
    ceiling := holds.ceiling }

theorem Holds.clear (holds : buffer.Holds ledger) : buffer.clear.Holds (ledger.after .cleared) :=
  { entries := rfl
    inFlight := rfl
    ceiling := holds.ceiling }

end Buffer

end QueryJournal
