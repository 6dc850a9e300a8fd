import Mathlib.Data.List.DropRight
import QueryJournal.Proofs.Journal.Room

namespace QueryJournal.Buffer

/-!
A buffer over a whole history of operations, in any order. What is held at its end is some of what
came in, in its order, and everything that is not held was committed, cleared or dropped.
-/

inductive Operation (α : Type) where
  | append (entry : α)
  | pending
  | commit
  | abort
  | clear
  deriving DecidableEq

namespace Operation

variable {α : Type}

def entry? : Operation α → Option α
  | .append entry => some entry
  | _ => none

def isCommit : Operation α → Bool
  | .commit => true
  | _ => false

def isClear : Operation α → Bool
  | .clear => true
  | _ => false

/-- Whether no batch is in flight after an operation, whatever was before it. -/
def endsBatch : Operation α → Bool
  | .commit | .abort | .clear => true
  | .append _ | .pending => false

end Operation

variable {α : Type} {start buffer : Buffer α} {operation : Operation α}
  {history : List (Operation α)} {front kept : List α}

def perform (buffer : Buffer α) : Operation α → Buffer α
  | .append entry => (buffer.append entry).2
  | .pending => buffer.pending.2
  | .commit => buffer.commit
  | .abort => buffer.abort
  | .clear => buffer.clear

def performAll (buffer : Buffer α) (history : List (Operation α)) : Buffer α :=
  history.foldl perform buffer

theorem performAll_append (buffer : Buffer α) (earlier later : List (Operation α)) :
    buffer.performAll (earlier ++ later) = (buffer.performAll earlier).performAll later :=
  List.foldl_append

theorem performAll_concat (buffer : Buffer α) (history : List (Operation α))
    (operation : Operation α) :
    buffer.performAll (history ++ [operation]) = (buffer.performAll history).perform operation :=
  performAll_append buffer history [operation]

/-!
### What no operation changes
-/

theorem ceiling_perform (buffer : Buffer α) (operation : Operation α) :
    (buffer.perform operation).ceiling = buffer.ceiling := by
  cases operation with
  | append entry => exact buffer.ceiling_append entry
  | pending | commit | abort | clear => rfl

theorem ceiling_performAll (buffer : Buffer α) (history : List (Operation α)) :
    (buffer.performAll history).ceiling = buffer.ceiling := by
  induction history generalizing buffer with
  | nil => rfl
  | cons operation later ih =>
      exact (ih (buffer.perform operation)).trans (buffer.ceiling_perform operation)

theorem ceiling_new_pos (capacity : Nat) (persistent : Bool) :
    0 < (new capacity persistent : Buffer α).ceiling := by
  have room : 0 < max capacity 1 := Nat.lt_of_lt_of_le Nat.one_pos (Nat.le_max_right _ _)
  cases persistent with
  | false => exact room
  | true => exact Nat.mul_pos room (by decide)

theorem flying_perform (flying : buffer.inFlight ≤ buffer.entries.size) (operation : Operation α) :
    (buffer.perform operation).inFlight ≤ (buffer.perform operation).entries.size := by
  cases operation with
  | append entry =>
      have bound := buffer.excess_le
      rw [perform, inFlight_append, size_append flying]
      omega
  | pending => exact Nat.le_refl _
  | commit | abort | clear => exact Nat.zero_le _

theorem flying_performAll (flying : buffer.inFlight ≤ buffer.entries.size)
    (history : List (Operation α)) :
    (buffer.performAll history).inFlight ≤ (buffer.performAll history).entries.size := by
  induction history generalizing buffer with
  | nil => exact flying
  | cons operation later ih => exact ih (flying_perform flying operation)

/-!
### What is held came in, and in this order
-/

theorem sublist_perform (buffer : Buffer α) (operation : Operation α) :
    (buffer.perform operation).entries.toList.Sublist
      (buffer.entries.toList ++ operation.entry?.toList) := by
  cases operation with
  | append entry =>
      rw [perform, toList_append]
      refine List.Sublist.append ?_ (List.Sublist.refl [entry])
      conv => rhs; rw [← List.take_append_drop buffer.inFlight buffer.entries.toList]
      rw [← List.drop_drop]
      exact (List.Sublist.refl _).append (List.drop_sublist _ _)
  | commit =>
      rw [perform, toList_commit]
      exact (List.drop_sublist _ _).trans (List.sublist_append_left _ _)
  | clear => exact List.nil_sublist _
  | pending | abort => exact List.sublist_append_left _ _

theorem sublist_performAll (buffer : Buffer α) (history : List (Operation α)) :
    (buffer.performAll history).entries.toList.Sublist
      (buffer.entries.toList ++ history.filterMap Operation.entry?) := by
  induction history using List.reverseRecOn with
  | nil => simp [performAll]
  | append_singleton history operation ih =>
      have step := (buffer.performAll history).sublist_perform operation
      have here := ih.append (List.Sublist.refl operation.entry?.toList)
      rw [performAll_concat, List.filterMap_append, ← List.append_assoc]
      refine (step.trans here).trans ?_
      cases operation <;> exact List.Sublist.refl _

/-!
### What a commit takes out
-/

theorem rtake_drop {few many : Nat} {entries : List α} (long : few + many ≤ entries.length) :
    (entries.drop few).rtake many = entries.rtake many := by
  rw [List.rtake, List.rtake, List.drop_drop, List.length_drop]
  congr 1
  omega

theorem toList_performAll_appends (whole : buffer.entries.toList = front ++ kept)
    (flight : buffer.inFlight = front.length) (room : 0 < buffer.ceiling)
    (few : kept.length ≤ buffer.ceiling) (behind : List α) :
    (buffer.performAll (behind.map .append)).entries.toList =
        front ++ (kept ++ behind).rtake buffer.ceiling ∧
      (buffer.performAll (behind.map .append)).inFlight = front.length := by
  induction behind generalizing buffer kept with
  | nil =>
      refine ⟨?_, flight⟩
      rw [List.append_nil, List.rtake, Nat.sub_eq_zero_of_le few, List.drop_zero]
      exact whole
  | cons entry behind ih =>
      have size : buffer.entries.size = front.length + kept.length := by
        rw [← Array.length_toList, whole, List.length_append]
      have excess : buffer.excess = kept.length + 1 - buffer.ceiling := by
        simp only [Buffer.excess, size, flight]
        omega
      have ceiling := buffer.ceiling_append entry
      have contents : (buffer.append entry).2.entries.toList =
          front ++ (kept.drop buffer.excess ++ [entry]) := by
        rw [toList_append, whole, flight, List.take_left, List.drop_length_add_append,
          List.append_assoc]
      have later := ih contents ((buffer.inFlight_append entry).trans flight) (ceiling ▸ room) (by
        rw [ceiling, List.length_append, List.length_drop, List.length_singleton]
        omega)
      have dropped : kept.drop buffer.excess ++ [entry] ++ behind =
          (kept ++ entry :: behind).drop buffer.excess := by
        rw [List.append_assoc, List.singleton_append, List.drop_append_of_le_length (by omega)]
      rw [dropped, ceiling] at later
      refine ⟨later.1.trans ?_, later.2⟩
      -- Something goes only where more than the ceiling is left, so the newest ones stay the same.
      by_cases none : buffer.excess = 0
      · rw [none, List.drop_zero]
      · rw [rtake_drop]
        rw [List.length_append, List.length_cons]
        omega

/-- The batch that was taken last leads what is held as long as no operation ended it. -/
theorem toList_performAll_pending (room : 0 < buffer.ceiling) (behind : List α) :
    (buffer.performAll (.pending :: behind.map .append)).entries.toList =
        buffer.pending.1 ++ behind.rtake buffer.ceiling ∧
      (buffer.performAll (.pending :: behind.map .append)).inFlight = buffer.pending.1.length := by
  have whole : buffer.pending.2.entries.toList = buffer.pending.1 ++ [] :=
    (List.append_nil _).symm
  exact toList_performAll_appends whole Array.length_toList.symm room (Nat.zero_le _) behind

/-- Every batch that was taken has been ended. -/
def NoneOutstanding (history : List (Operation α)) : Prop :=
  ∀ earlier later, history = earlier ++ .pending :: later →
    ∃ operation ∈ later, operation.endsBatch = true

theorem NoneOutstanding.of_append {entry : α}
    (none : NoneOutstanding (history ++ [.append entry])) : NoneOutstanding history := by
  intro earlier later split
  obtain ⟨operation, member, ends⟩ := none earlier (later ++ [.append entry]) (by simp [split])
  rcases List.mem_append.mp member with before | last
  · exact ⟨operation, before, ends⟩
  · rw [List.mem_singleton.mp last] at ends
    contradiction

theorem inFlight_performAll (idle : start.inFlight = 0) (none : NoneOutstanding history) :
    (start.performAll history).inFlight = 0 := by
  induction history using List.reverseRecOn with
  | nil => exact idle
  | append_singleton history operation ih =>
      rw [performAll_concat]
      cases operation with
      | append entry => exact (inFlight_append _ entry).trans (ih none.of_append)
      | pending =>
          obtain ⟨_, member, _⟩ := none history [] rfl
          contradiction
      | commit | abort | clear => rfl

/-!
### What became of everything
-/

def takenOut (buffer : Buffer α) (operation : Operation α) : Nat :=
  buffer.entries.size - (buffer.perform operation).entries.size

/-- The number of entries that the operations of one kind took out in the course of a history. -/
def takenOutBy (counts : Operation α → Bool) : Buffer α → List (Operation α) → Nat
  | _, [] => 0
  | buffer, operation :: later =>
      (if counts operation then buffer.takenOut operation else 0) +
        takenOutBy counts (buffer.perform operation) later

theorem balance_perform (flying : buffer.inFlight ≤ buffer.entries.size)
    (operation : Operation α) :
    buffer.entries.size + buffer.dropped + operation.entry?.toList.length =
      (if operation.isCommit then buffer.takenOut operation else 0) +
        (if operation.isClear then buffer.takenOut operation else 0) +
          ((buffer.perform operation).entries.size + (buffer.perform operation).dropped) := by
  cases operation with
  | append entry =>
      have bound := buffer.excess_le
      simp only [perform, size_append flying, dropped_append, Operation.entry?,
        Operation.isCommit, Operation.isClear, Option.toList_some, List.length_singleton,
        Bool.false_eq_true, ↓reduceIte]
      omega
  | commit =>
      simp only [takenOut, perform, size_commit, Operation.entry?, Operation.isCommit,
        Operation.isClear, Option.toList_none, List.length_nil, Bool.false_eq_true, ↓reduceIte]
      have dropped : buffer.commit.dropped = buffer.dropped := rfl
      omega
  | clear =>
      simp [takenOut, perform, clear, Operation.entry?, Operation.isCommit, Operation.isClear]
  | pending | abort =>
      simp [perform, Operation.entry?, Operation.isCommit, Operation.isClear, pending, abort]

theorem balance_performAll (flying : buffer.inFlight ≤ buffer.entries.size)
    (history : List (Operation α)) :
    buffer.entries.size + buffer.dropped + (history.filterMap Operation.entry?).length =
      takenOutBy Operation.isCommit buffer history + takenOutBy Operation.isClear buffer history +
        ((buffer.performAll history).entries.size + (buffer.performAll history).dropped) := by
  induction history generalizing buffer with
  | nil => simp [takenOutBy, performAll]
  | cons operation later ih =>
      have step := balance_perform flying operation
      have rest := ih (flying_perform flying operation)
      have entries : (List.filterMap Operation.entry? (operation :: later)).length =
          operation.entry?.toList.length + (later.filterMap Operation.entry?).length := by
        cases operation <;> simp [List.filterMap_cons, Operation.entry?, Nat.add_comm]
      simp only [takenOutBy, entries, performAll, List.foldl_cons] at rest ⊢
      omega

/-!
### The books
-/

/-- The entries that are being written, and those that are not. -/
def batch (buffer : Buffer α) : List α :=
  buffer.entries.toList.take buffer.inFlight

def outside (buffer : Buffer α) : List α :=
  buffer.entries.toList.drop buffer.inFlight

/-- An entry comes in behind the others. Before that the oldest ones outside the batch go, until
fewer than the ceiling are left there, and the caller is told how many. -/
structure MakesRoom (buffer : Buffer α) (entry : α) : Prop where
  contents : (buffer.append entry).2.entries.toList =
    buffer.batch ++ buffer.outside.drop (buffer.append entry).1.evicted ++ [entry]
  enough : buffer.outside.length - (buffer.append entry).1.evicted < buffer.ceiling
  needed : ∀ fewer < (buffer.append entry).1.evicted, buffer.ceiling ≤ buffer.outside.length - fewer
  counted : (buffer.append entry).2.dropped = buffer.dropped + (buffer.append entry).1.evicted

theorem makesRoom (room : 0 < buffer.ceiling) (entry : α) : buffer.MakesRoom entry := by
  have evicted : (buffer.append entry).1.evicted = buffer.excess := rfl
  have length : buffer.outside.length = buffer.entries.size - buffer.inFlight := by
    rw [outside, List.length_drop, Array.length_toList]
  have excess : buffer.excess = buffer.outside.length + 1 - buffer.ceiling := by
    simp only [Buffer.excess, length]
    omega
  refine
    { contents := ?_
      enough := by omega
      needed := by omega
      counted := buffer.dropped_append entry }
  rw [toList_append, evicted, batch, outside, List.drop_drop]

structure Bookkept (start : Buffer α) (history : List (Operation α)) (buffer : Buffer α) :
    Prop where
  flying : buffer.inFlight ≤ buffer.entries.size
  inOrder : buffer.entries.toList.Sublist (history.filterMap Operation.entry?)
  /-- The batch that was taken last, if no operation ended it, is what a commit takes out. All that
  came in behind it stays, as far as the ceiling allows. -/
  commitsBatch : ∀ (earlier : List (Operation α)) (behind : List α),
    history = earlier ++ .pending :: behind.map .append →
    buffer.entries.toList = (start.performAll earlier).pending.1 ++ behind.rtake buffer.ceiling ∧
      buffer.commit.entries.toList = behind.rtake buffer.ceiling
  commitsNothing : NoneOutstanding history → buffer.commit.entries = buffer.entries
  makesRoom : ∀ entry, buffer.MakesRoom entry
  balanced : (history.filterMap Operation.entry?).length =
    takenOutBy Operation.isCommit start history + takenOutBy Operation.isClear start history +
      buffer.dropped + buffer.entries.size

/-- The books of a buffer are right after every history, whatever the order of the operations. -/
theorem bookkept_performAll (capacity : Nat) (persistent : Bool) (history : List (Operation α)) :
    Bookkept (new capacity persistent) history ((new capacity persistent).performAll history) := by
  have idle : (new capacity persistent : Buffer α).inFlight ≤
    (new capacity persistent : Buffer α).entries.size := Nat.le_refl 0
  have room := ceiling_new_pos (α := α) capacity persistent
  have ceiling := (new capacity persistent).ceiling_performAll history
  refine
    { flying := flying_performAll idle history
      inOrder := sublist_performAll _ history
      commitsBatch := ?_
      commitsNothing := ?_
      makesRoom := makesRoom (ceiling ▸ room)
      balanced := ?_ }
  · rintro earlier behind rfl
    have same := (new capacity persistent).ceiling_performAll earlier
    obtain ⟨contents, flight⟩ := toList_performAll_pending (same ▸ room) behind
    rw [← performAll_append, same] at contents
    rw [← performAll_append] at flight
    rw [ceiling, toList_commit, contents, flight, List.drop_left]
    exact ⟨rfl, rfl⟩
  · intro none
    have flight : ((new capacity persistent).performAll history).inFlight = 0 :=
      inFlight_performAll rfl none
    apply Array.toList_inj.mp
    rw [toList_commit, flight, List.drop_zero]
  · have balance := balance_performAll idle history
    have empty : (new capacity persistent : Buffer α).entries.size = 0 := rfl
    have fresh : (new capacity persistent : Buffer α).dropped = 0 := rfl
    omega

-- The ceiling is two. The batch stays while the third entry makes room for the fifth one.
example :
    let buffer := (new 1 true : Buffer Nat).performAll
      [.append 1, .append 2, .pending, .append 3, .append 4, .append 5]
    buffer.entries = #[1, 2, 4, 5] ∧ buffer.commit.entries = #[4, 5] := by
  decide

end QueryJournal.Buffer
