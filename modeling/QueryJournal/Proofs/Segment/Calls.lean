import QueryJournal.Proofs.Segment.Backward

namespace QueryJournal.Backward

open QueryJournal.Utf8 (Bytes)

/-!
A reader that is asked again and again. It answers one line after another, the last one first, and
then that there is none, however often it is asked. A line that is too long costs one answer, which
is a failure, and no other line.
-/

/-- What the caller of a reader is told: the bytes of a line, that there is no line any more, or
what failed. -/
def Item.answer : Option Item → Except Failure (Option Bytes)
  | none => .ok none
  | some (.line bytes) => .ok (some bytes)
  | some (.oversized length) => .error (oversizedFailure length)
  | some .unreadable => .error (.system "cannot read file")

/-- What may be answered for a line. Between the two lengths it depends on where the chunks of the
file begin whether the line is told or reported. -/
structure Answers (piece : Bytes) (answer : Except Failure (Option Bytes)) : Prop where
  either : answer = .ok (some piece) ∨ ∃ length, answer = .error (Item.oversizedFailure length)
  short : piece.length ≤ maxLineLength → answer = .ok (some piece)
  long : maxLineLength + chunkLength ≤ piece.length →
    ∃ length, answer = .error (Item.oversizedFailure length)

namespace Reader

def afterCalls (reader : Reader) : Nat → Reader
  | 0 => reader
  | calls + 1 => reader.next.2.afterCalls calls

/-- The answer to a call, of which the first has the number zero. -/
def call (reader : Reader) (index : Nat) : Except Failure (Option Bytes) :=
  Item.answer (reader.afterCalls index).next.1

variable {reader after : Reader} {item : Item} {piece : Bytes}

theorem answers_of_reports (report : Reports piece item) :
    Answers piece (Item.answer (some item)) := by
  cases item with
  | line bytes =>
      obtain ⟨rfl, bounded⟩ := report
      exact
        { either := .inl rfl
          short := fun _ => rfl
          long := fun reached => absurd bounded (Nat.not_lt.mpr reached) }
  | oversized length =>
      have beyond : maxLineLength < piece.length := report
      exact
        { either := .inr ⟨length, rfl⟩
          short := fun within => absurd beyond (Nat.not_lt.mpr within)
          long := fun _ => ⟨length, rfl⟩ }
  | unreadable => exact report.elim

/-- Where no line is ahead every call answers that there is none. -/
theorem call_of_nothing (sound : reader.Sound) (nothing : reader.linesAhead = []) (index : Nat) :
    reader.call index = .ok none := by
  induction index generalizing reader with
  | zero =>
      cases found : reader.next with
      | mk item after =>
          have finds := (next_finds found sound).2
          rw [call, afterCalls, found]
          cases item with
          | none => rfl
          | some item => cases item <;> simp [Finds, nothing] at finds
  | succ index ih =>
      cases found : reader.next with
      | mk item after =>
          obtain ⟨later, finds⟩ := next_finds found sound
          have still : after.linesAhead = [] := by
            cases item with
            | none => exact finds.2
            | some item => cases item <;> simp [Finds, nothing] at finds
          have next := ih later still
          rw [call, afterCalls, found]
          exact next

/-- The calls answer the items of the file one by one. -/
theorem call_eq_items (sound : reader.Sound) (index : Nat) :
    reader.call index = (reader.items.map fun item => Item.answer (some item)).getD index
      (.ok none) := by
  induction index generalizing reader with
  | zero =>
      cases found : reader.next with
      | mk item after =>
          have finds := (next_finds found sound).2
          rw [call, afterCalls, found]
          cases item with
          | none => rw [items_of_none found]; rfl
          | some item =>
              cases item with
              | line bytes => rw [items_of_line found]; rfl
              | oversized length => rw [items_of_oversized found]; rfl
              | unreadable => exact finds.elim
  | succ index ih =>
      cases found : reader.next with
      | mk item after =>
          obtain ⟨later, finds⟩ := next_finds found sound
          have step : reader.call (index + 1) = after.call index := by
            rw [call, afterCalls, found]
            rfl
          rw [step]
          cases item with
          | none => rw [call_of_nothing later finds.2, items_of_none found]; rfl
          | some item =>
              cases item with
              | line bytes => rw [ih later, items_of_line found]; rfl
              | oversized length => rw [ih later, items_of_oversized found]; rfl
              | unreadable => exact finds.elim

/-- Reading a file backwards answers one call for each line of the part that counts, the last line
first, and every later call with nothing. A line that is not too long is told byte for byte whatever
stands around it, and of a line that is too long nothing is told but that it is. -/
theorem calls_answer_lines (content : Bytes) (limit : Option Nat) :
    ∃ answers, List.Forall₂ Answers (pieces (counted content limit)).reverse answers ∧
      ∀ index, (ofContent content limit).call index = answers.getD index (.ok none) := by
  refine ⟨_, ?_, call_eq_items (sound_ofContent content limit)⟩
  rw [List.forall₂_map_right_iff]
  exact (items_ofContent content limit).imp fun _ _ report => answers_of_reports report

end Reader

end QueryJournal.Backward
