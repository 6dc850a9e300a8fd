import QueryJournal.Proofs.Journal.Bookkeeping
import QueryJournal.Record.Entry

namespace QueryJournal.Buffer

/-!
How much a buffer holds while writing fails. Room is made only when an entry comes in, and a batch
that is being written is not counted, so every attempt to write lets in another ceiling's worth if
no entry comes in between a failure and the next attempt.
-/

variable {α : Type} {buffer : Buffer α} {limit : Nat}

/-- The attempts to write since the buffer was last relieved, and whether one of them is under way.
A buffer is relieved when a batch is committed, when everything is cleared and when an entry comes
in while nothing is being written. -/
structure Attempts where
  count : Nat := 0
  underWay : Bool := false
  deriving DecidableEq

namespace Attempts

def after (attempts : Attempts) : Operation α → Attempts
  | .append _ => if attempts.underWay then attempts else {}
  | .pending => { count := attempts.count + 1, underWay := true }
  | .commit => if attempts.underWay then {} else attempts
  | .abort => { attempts with underWay := false }
  | .clear => {}

def afterAll (attempts : Attempts) (history : List (Operation α)) : Attempts :=
  history.foldl after attempts

def ofHistory (history : List (Operation α)) : Attempts :=
  afterAll {} history

theorem afterAll_append (attempts : Attempts) (earlier later : List (Operation α)) :
    attempts.afterAll (earlier ++ later) = (attempts.afterAll earlier).afterAll later :=
  List.foldl_append

theorem ofHistory_concat (history : List (Operation α)) (operation : Operation α) :
    ofHistory (history ++ [operation]) = (ofHistory history).after operation :=
  afterAll_append _ history [operation]

theorem afterAll_appends {attempts : Attempts} (busy : attempts.underWay = true)
    (entries : List α) : attempts.afterAll (entries.map .append) = attempts := by
  induction entries with
  | nil => rfl
  | cons entry entries ih =>
      have same : attempts.after (.append entry) = attempts := by simp [after, busy]
      rw [List.map_cons, afterAll, List.foldl_cons, same]
      exact ih

end Attempts

structure Confined (limit : Nat) (buffer : Buffer α) (attempts : Attempts) : Prop where
  flying : buffer.inFlight ≤ buffer.entries.size
  held : buffer.entries.size ≤ attempts.count * limit + limit
  batch : buffer.inFlight ≤ attempts.count * limit
  outside : attempts.underWay = true → buffer.entries.size - buffer.inFlight ≤ limit
  idle : attempts.underWay = false → buffer.inFlight = 0

theorem Confined.append {attempts : Attempts} (confined : Confined limit buffer attempts)
    (ceiling : buffer.ceiling = limit) (room : 0 < limit) (entry : α) :
    Confined limit (buffer.append entry).2 (attempts.after (.append entry)) := by
  obtain ⟨flying, held, batch, outside, idle⟩ := confined
  have size := size_append flying entry
  have flight := buffer.inFlight_append entry
  have excess : buffer.excess = buffer.entries.size - buffer.inFlight + 1 - limit := by
    simp only [Buffer.excess, ceiling]
    omega
  cases busy : attempts.underWay with
  | true =>
      have counted := outside busy
      simp only [Attempts.after, busy, ↓reduceIte]
      exact
        { flying := by omega
          held := by omega
          batch := by omega
          outside := fun _ => by omega
          idle := by simp [busy] }
  | false =>
      have nothing := idle busy
      simp only [Attempts.after, busy, Bool.false_eq_true, ↓reduceIte]
      exact
        { flying := by omega
          held := by omega
          batch := by omega
          outside := by simp
          idle := fun _ => flight.trans nothing }

theorem Confined.commit {attempts : Attempts} (confined : Confined limit buffer attempts) :
    Confined limit buffer.commit (attempts.after (.commit : Operation α)) := by
  obtain ⟨flying, held, batch, outside, idle⟩ := confined
  have size := buffer.size_commit
  have flight : buffer.commit.inFlight = 0 := rfl
  cases busy : attempts.underWay with
  | true =>
      have counted := outside busy
      simp only [Attempts.after, busy, ↓reduceIte]
      exact
        { flying := by omega
          held := by omega
          batch := by omega
          outside := by simp
          idle := fun _ => flight }
  | false =>
      have nothing := idle busy
      simp only [Attempts.after, busy, Bool.false_eq_true, ↓reduceIte]
      exact
        { flying := by omega
          held := by omega
          batch := by omega
          outside := by simp [busy]
          idle := fun _ => flight }

theorem Confined.perform {attempts : Attempts} (confined : Confined limit buffer attempts)
    (ceiling : buffer.ceiling = limit) (room : 0 < limit) (operation : Operation α) :
    Confined limit (buffer.perform operation) (attempts.after operation) := by
  cases operation with
  | append entry => exact confined.append ceiling room entry
  | pending =>
      -- All that is held becomes the batch, and room for another ceiling's worth is left outside.
      have more : (attempts.count + 1) * limit = attempts.count * limit + limit :=
        Nat.succ_mul _ _
      have held := confined.held
      exact
        { flying := Nat.le_refl _
          held := Nat.le_trans held (by simp only [Attempts.after, more]; omega)
          batch := Nat.le_trans held (Nat.le_of_eq more.symm)
          outside := fun _ => by simp [Buffer.perform, Buffer.pending]
          idle := by simp [Attempts.after] }
  | commit => exact confined.commit
  | abort =>
      exact
        { flying := Nat.zero_le _
          held := confined.held
          batch := Nat.zero_le _
          outside := by simp [Attempts.after]
          idle := fun _ => rfl }
  | clear =>
      exact
        { flying := Nat.le_refl _
          held := Nat.zero_le _
          batch := Nat.zero_le _
          outside := by simp [Attempts.after]
          idle := fun _ => rfl }

theorem confined_performAll (capacity : Nat) (persistent : Bool) (history : List (Operation α)) :
    Confined (new capacity persistent : Buffer α).ceiling
      ((new capacity persistent).performAll history) (Attempts.ofHistory history) := by
  induction history using List.reverseRecOn with
  | nil =>
      exact
        { flying := Nat.le_refl 0
          held := Nat.zero_le _
          batch := Nat.zero_le _
          outside := fun _ => Nat.zero_le _
          idle := fun _ => rfl }
  | append_singleton history operation ih =>
      rw [performAll_concat, Attempts.ofHistory_concat]
      exact ih.perform (ceiling_performAll _ history) (ceiling_new_pos capacity persistent)
        operation

/-!
### How far it goes
-/

/-- As many entries as the ceiling allows, and then attempts that fail while as many come in. -/
def crowding (entry : α) (limit : Nat) : Nat → List (Operation α)
  | 0 => (List.replicate limit entry).map .append
  | count + 1 =>
      crowding entry limit count ++ .pending :: (List.replicate limit entry).map .append ++ [.abort]

theorem rtake_replicate (entry : α) (limit : Nat) :
    (List.replicate limit entry).rtake limit = List.replicate limit entry := by
  rw [List.rtake, List.length_replicate, Nat.sub_self, List.drop_zero]

theorem attempts_crowding (entry : α) (limit count : Nat) :
    Attempts.ofHistory (crowding entry limit count) = { count, underWay := false } := by
  induction count with
  | zero =>
      rw [crowding]
      induction limit with
      | zero => rfl
      | succ limit ih => exact ih
  | succ count ih =>
      have busy : Attempts.afterAll { count := count + 1, underWay := true }
          ((List.replicate limit entry).map .append) = { count := count + 1, underWay := true } :=
        Attempts.afterAll_appends rfl _
      rw [crowding, Attempts.ofHistory_concat, Attempts.ofHistory, Attempts.afterAll_append,
        ← Attempts.ofHistory, ih]
      exact congrArg (Attempts.after · (.abort : Operation α)) busy

theorem size_crowding {start : Buffer α} (empty : start.entries = #[]) (idle : start.inFlight = 0)
    (ceiling : start.ceiling = limit) (room : 0 < limit) (entry : α) (count : Nat) :
    (start.performAll (crowding entry limit count)).entries.size = count * limit + limit := by
  induction count with
  | zero =>
      have whole : start.entries.toList = [] ++ [] := by
        rw [empty]
        rfl
      have filled := toList_performAll_appends whole idle (Nat.lt_of_lt_of_eq room ceiling.symm)
        (Nat.zero_le _) (List.replicate limit entry)
      rw [crowding, ← Array.length_toList, filled.1, List.nil_append, List.nil_append, ceiling,
        rtake_replicate, List.length_replicate, Nat.zero_mul, Nat.zero_add]
  | succ count ih =>
      let crowded := start.performAll (crowding entry limit count)
      have same : crowded.ceiling = limit := (start.ceiling_performAll _).trans ceiling
      have above : 0 < crowded.ceiling := Nat.lt_of_lt_of_eq room same.symm
      have filled := toList_performAll_pending above (List.replicate limit entry)
      have aborted : (start.performAll (crowding entry limit (count + 1))).entries =
          (crowded.performAll (.pending :: (List.replicate limit entry).map .append)).entries := by
        rw [crowding, performAll_concat, performAll_append]
        rfl
      have taken : crowded.pending.1.length = crowded.entries.size := Array.length_toList
      rw [aborted, ← Array.length_toList, filled.1, same, rtake_replicate, List.length_append,
        List.length_replicate, Nat.succ_mul, taken, ih]

/-- A buffer that files stand behind holds at most one ceiling's worth more than the attempts since
it was last relieved, of which one may be under way. So it holds at most twice the ceiling if an
entry comes in between a failure and the next attempt. Otherwise there is no bound: any number of
attempts can bring it to what is said here. -/
theorem held_by_attempts (capacity : Nat) (entry : α) :
    (∀ history : List (Operation α),
      let buffer := (new capacity true : Buffer α).performAll history
      let attempts := Attempts.ofHistory history
      let ceiling := overflowFactor * max capacity 1
      buffer.entries.size ≤ (attempts.count + 1) * ceiling ∧
        buffer.inFlight ≤ attempts.count * ceiling ∧
        (attempts.underWay = true → buffer.entries.size - buffer.inFlight ≤ ceiling)) ∧
    ∀ count, ∃ history : List (Operation α), (Attempts.ofHistory history).count = count ∧
      ((new capacity true : Buffer α).performAll history).entries.size =
        (count + 1) * (overflowFactor * max capacity 1) := by
  have ceiling : (new capacity true : Buffer α).ceiling = overflowFactor * max capacity 1 :=
    Nat.mul_comm _ _
  constructor
  · intro history
    have confined := confined_performAll capacity true history
    rw [ceiling] at confined
    exact ⟨Nat.le_trans confined.held (Nat.le_of_eq (Nat.succ_mul _ _).symm), confined.batch,
      confined.outside⟩
  · intro count
    have room := ceiling_new_pos (α := α) capacity true
    rw [ceiling] at room
    refine ⟨crowding entry (overflowFactor * max capacity 1) count, by rw [attempts_crowding], ?_⟩
    rw [size_crowding rfl rfl ceiling room entry count, Nat.succ_mul]

def entryOf (host : String) : Entry :=
  { (default : Entry) with host }

/-- With room for one entry the ceiling is two. After one attempt that failed, and during the next
one, six entries are held, which is more than twice the ceiling. -/
theorem failures_outgrow_ceiling :
    ¬((new 1 true : Buffer Entry).performAll
        [.append (entryOf "a.example"), .append (entryOf "b.example"), .pending,
          .append (entryOf "c.example"), .append (entryOf "d.example"), .abort, .pending,
          .append (entryOf "e.example"), .append (entryOf "f.example")]).entries.size ≤
      2 * (overflowFactor * 1) := by
  decide

end QueryJournal.Buffer
