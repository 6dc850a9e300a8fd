namespace QueryJournal

/-!
The most recent entries, held in memory. Without files the capacity is the whole retention, and
the oldest entry makes room for a new one. With files the entries wait to be written: reaching the
capacity asks for a flush, and if flushes keep failing the buffer stops at a multiple of its
capacity. The entries of a batch that is being written are neither counted nor dropped.
-/

def overflowFactor : Nat := 2

/-- Entries in the order in which they came, of which the first `inFlight` are being written. -/
structure Buffer (α : Type) where
  entries : Array α
  capacity : Nat
  persistent : Bool
  flushPending : Bool
  inFlight : Nat
  dropped : Nat
  deriving DecidableEq

/-- What an append did: whether a flush is wanted, and how many entries it dropped. -/
structure Appended where
  flushWanted : Bool
  evicted : Nat
  deriving DecidableEq, Repr

namespace Buffer

variable {α : Type}

/-- An empty buffer. Its capacity is at least one. -/
def new (capacity : Nat) (persistent : Bool) : Buffer α :=
  { entries := #[], capacity := max capacity 1, persistent, flushPending := false, inFlight := 0
    dropped := 0 }

/-- The number of entries at which the next one needs room to be made. -/
def ceiling (buffer : Buffer α) : Nat :=
  if buffer.persistent then buffer.capacity * overflowFactor else buffer.capacity

def excess (buffer : Buffer α) : Nat :=
  let free := buffer.entries.size - buffer.inFlight
  min free (free + 1 - buffer.ceiling)

/-- The buffer without the oldest entries that are not in flight, as many as have to go. -/
def evict (buffer : Buffer α) : Buffer α :=
  if buffer.excess = 0 then buffer
  else
    { buffer with
      entries := buffer.entries.extract 0 buffer.inFlight ++
        buffer.entries.extract (buffer.inFlight + buffer.excess) buffer.entries.size
      dropped := buffer.dropped + buffer.excess }

def isFull (buffer : Buffer α) (size : Nat) : Bool :=
  buffer.persistent && decide (buffer.capacity ≤ size)

def append (buffer : Buffer α) (entry : α) : Appended × Buffer α :=
  let evicted := buffer.excess
  let buffer := buffer.evict
  let entries := buffer.entries.push entry
  let flushWanted := buffer.isFull entries.size
  ({ flushWanted, evicted },
    { buffer with entries, flushPending := buffer.flushPending || flushWanted })

/-- The entries, newest first. -/
def snapshot (buffer : Buffer α) : List α :=
  buffer.entries.toList.reverse

def pending (buffer : Buffer α) : List α × Buffer α :=
  (buffer.entries.toList, { buffer with inFlight := buffer.entries.size })

def commit (buffer : Buffer α) : Buffer α :=
  let entries := buffer.entries.extract buffer.inFlight buffer.entries.size
  { buffer with entries, inFlight := 0, flushPending := buffer.isFull entries.size }

def abort (buffer : Buffer α) : Buffer α :=
  { buffer with inFlight := 0 }

def clear (buffer : Buffer α) : Buffer α :=
  { buffer with entries := #[], inFlight := 0, flushPending := false }

end Buffer

end QueryJournal
