import QueryJournal.Journal.Buffer

namespace QueryJournal.Buffer

/-!
What each operation does to the entries that a buffer holds. Room for a new entry is made at the
border of the batch that is being written: as many entries go from there as there are too many, so
the batch stays, and the ones that came last stay too.
-/

variable {α : Type} {buffer : Buffer α} {few many : Nat}

theorem toList_evict (buffer : Buffer α) :
    buffer.evict.entries.toList =
      buffer.entries.toList.take buffer.inFlight ++
        buffer.entries.toList.drop (buffer.inFlight + buffer.excess) := by
  rw [evict]
  split
  · rename_i none
    rw [none, Nat.add_zero, List.take_append_drop]
  · simp [List.take_of_length_le]

@[simp] theorem evict_inFlight (buffer : Buffer α) : buffer.evict.inFlight = buffer.inFlight := by
  rw [evict]
  split <;> rfl

@[simp] theorem evict_capacity (buffer : Buffer α) : buffer.evict.capacity = buffer.capacity := by
  rw [evict]
  split <;> rfl

@[simp] theorem evict_persistent (buffer : Buffer α) :
    buffer.evict.persistent = buffer.persistent := by
  rw [evict]
  split <;> rfl

theorem evict_flushPending (buffer : Buffer α) :
    buffer.evict.flushPending = buffer.flushPending := by
  rw [evict]
  split <;> rfl

theorem evict_ceiling (buffer : Buffer α) : buffer.evict.ceiling = buffer.ceiling := by
  simp only [ceiling, evict_capacity, evict_persistent]

theorem excess_le (buffer : Buffer α) : buffer.excess ≤ buffer.entries.size - buffer.inFlight :=
  Nat.min_le_left _ _

theorem size_evict (flying : buffer.inFlight ≤ buffer.entries.size) :
    buffer.evict.entries.size = buffer.entries.size - buffer.excess := by
  have bound := buffer.excess_le
  rw [← Array.length_toList, toList_evict, List.length_append, List.length_take, List.length_drop,
    Array.length_toList]
  omega

/-!
### An entry comes in
-/

theorem toList_append (buffer : Buffer α) (entry : α) :
    (buffer.append entry).2.entries.toList =
      buffer.entries.toList.take buffer.inFlight ++
        buffer.entries.toList.drop (buffer.inFlight + buffer.excess) ++ [entry] := by
  simp only [append, Array.toList_push, toList_evict]

theorem size_append (flying : buffer.inFlight ≤ buffer.entries.size) (entry : α) :
    (buffer.append entry).2.entries.size = buffer.entries.size - buffer.excess + 1 := by
  simp only [append, Array.size_push, size_evict flying]

theorem inFlight_append (buffer : Buffer α) (entry : α) :
    (buffer.append entry).2.inFlight = buffer.inFlight :=
  evict_inFlight buffer

theorem ceiling_append (buffer : Buffer α) (entry : α) :
    (buffer.append entry).2.ceiling = buffer.ceiling :=
  evict_ceiling buffer

theorem dropped_append (buffer : Buffer α) (entry : α) :
    (buffer.append entry).2.dropped = buffer.dropped + buffer.excess := by
  simp only [append, evict]
  split
  · rename_i none
    rw [none, Nat.add_zero]
  · rfl

/-!
### A batch leaves
-/

theorem toList_commit (buffer : Buffer α) :
    buffer.commit.entries.toList = buffer.entries.toList.drop buffer.inFlight := by
  simp [commit, List.take_of_length_le]

theorem size_commit (buffer : Buffer α) :
    buffer.commit.entries.size = buffer.entries.size - buffer.inFlight := by
  simp [commit]

theorem flushPending_commit (buffer : Buffer α) :
    buffer.commit.flushPending = buffer.isFull (buffer.entries.size - buffer.inFlight) := by
  simp [commit]

/-!
### Being full
-/

theorem isFull_iff (buffer : Buffer α) (size : Nat) :
    buffer.isFull size = true ↔ buffer.persistent = true ∧ buffer.capacity ≤ size := by
  simp [isFull]

theorem isFull_mono (full : buffer.isFull few = true) (more : few ≤ many) :
    buffer.isFull many = true := by
  rw [isFull_iff] at full ⊢
  exact ⟨full.1, Nat.le_trans full.2 more⟩

theorem isFull_evict (buffer : Buffer α) (size : Nat) :
    buffer.evict.isFull size = buffer.isFull size := by
  rw [isFull, isFull, evict_capacity, evict_persistent]

theorem isFull_append (buffer : Buffer α) (entry : α) (size : Nat) :
    (buffer.append entry).2.isFull size = buffer.isFull size :=
  isFull_evict buffer size

theorem flushWanted_append (flying : buffer.inFlight ≤ buffer.entries.size) (entry : α) :
    (buffer.append entry).1.flushWanted =
      buffer.isFull (buffer.entries.size - buffer.excess + 1) := by
  simp only [append, Array.size_push, size_evict flying, isFull_evict]

/-- A full buffer that makes room for an entry is full with it. -/
theorem isFull_after_excess (full : buffer.isFull buffer.entries.size = true) :
    buffer.isFull (buffer.entries.size - buffer.excess + 1) = true := by
  obtain ⟨persistent, enough⟩ := (buffer.isFull_iff _).mp full
  refine (buffer.isFull_iff _).mpr ⟨persistent, ?_⟩
  -- What goes is what lies above twice the capacity.
  simp only [excess, ceiling, persistent, ↓reduceIte, overflowFactor]
  omega

end QueryJournal.Buffer
