import QueryJournal.Proofs.Journal.Ledger

namespace QueryJournal.Buffer

/-!
A buffer asks for a flush exactly while it holds as many entries as it is meant to, whatever was
done with it. Making room for a new entry never takes it below that.
-/

variable {buffer : Buffer Entry}

/-- A buffer that asks for a flush while it is full. -/
structure Attentive (buffer : Buffer Entry) : Prop where
  asks : buffer.flushPending = buffer.isFull buffer.entries.size
  flying : buffer.inFlight ≤ buffer.entries.size
  roomy : 0 < buffer.capacity

theorem Attentive.not_isFull_zero (attentive : buffer.Attentive) : buffer.isFull 0 = false := by
  have roomy := attentive.roomy
  rw [isFull, decide_eq_false (Nat.not_le_of_lt roomy), Bool.and_false]

theorem attentive_new (capacity : Nat) (persistent : Bool) :
    (new capacity persistent : Buffer Entry).Attentive := by
  have roomy : 0 < max capacity 1 := Nat.lt_of_lt_of_le Nat.zero_lt_one (Nat.le_max_right _ _)
  exact
    { asks := by simp [new, isFull]
      flying := Nat.le_refl 0
      roomy }

/-- After an append the buffer asks for a flush if and only if the append wants one. -/
theorem Attentive.flushPending_append (attentive : buffer.Attentive) (entry : Entry) :
    (buffer.append entry).2.flushPending = (buffer.append entry).1.flushWanted := by
  have wanted := flushWanted_append attentive.flying entry
  have pending : (buffer.append entry).2.flushPending =
      (buffer.flushPending || (buffer.append entry).1.flushWanted) :=
    congrArg (· || _) buffer.evict_flushPending
  rw [pending, wanted, attentive.asks]
  cases full : buffer.isFull buffer.entries.size with
  | false => rfl
  | true => rw [isFull_after_excess full, Bool.or_self]

theorem Attentive.append (attentive : buffer.Attentive) (entry : Entry) :
    (buffer.append entry).2.Attentive := by
  have size := size_append attentive.flying entry
  have bound : buffer.excess ≤ buffer.entries.size - buffer.inFlight := Nat.min_le_left _ _
  have flying := attentive.flying
  refine
    { asks := ?_
      flying := ?_
      roomy := ?_ }
  · rw [attentive.flushPending_append, flushWanted_append flying, isFull_append, size]
  · rw [inFlight_append, size]
    omega
  · exact Nat.lt_of_lt_of_eq attentive.roomy buffer.evict_capacity.symm

theorem Attentive.pending (attentive : buffer.Attentive) : buffer.pending.2.Attentive :=
  { asks := attentive.asks
    flying := Nat.le_refl _
    roomy := attentive.roomy }

theorem Attentive.commit (attentive : buffer.Attentive) : buffer.commit.Attentive :=
  { asks := by
      rw [flushPending_commit, size_commit]
      rfl
    flying := Nat.zero_le _
    roomy := attentive.roomy }

theorem Attentive.abort (attentive : buffer.Attentive) : buffer.abort.Attentive :=
  { asks := attentive.asks
    flying := Nat.zero_le _
    roomy := attentive.roomy }

theorem Attentive.clear (attentive : buffer.Attentive) : buffer.clear.Attentive :=
  { asks := attentive.not_isFull_zero.symm
    flying := Nat.le_refl 0
    roomy := attentive.roomy }

/-- A buffer that still asks after a batch has left it asked before. -/
theorem Attentive.asked_before_commit (attentive : buffer.Attentive)
    (asks : buffer.commit.flushPending = true) : buffer.flushPending = true := by
  rw [attentive.asks]
  rw [flushPending_commit] at asks
  exact isFull_mono asks (Nat.sub_le _ _)

end QueryJournal.Buffer
