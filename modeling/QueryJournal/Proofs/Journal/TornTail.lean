import QueryJournal.Proofs.Journal.Contents
import QueryJournal.Proofs.Json.Prefix

namespace QueryJournal.Entry

open QueryJournal.Backward (Reader maxLineLength pieces)
open QueryJournal.Search (entryOf? isSkipped)
open QueryJournal.Utf8 (Bytes)

/-!
A file of lines that was cut off somewhere. The objects before the cut are read, whether or not
their newline is left, and of the object that the cut goes through nothing is read.
-/

/-!
### The object that is cut through
-/

theorem lineBody_braces (entry : Entry) : ∃ inner, entry.lineBody = 0x7B :: inner ++ [0x7D] := by
  have table : ∃ name value members, entry.toValue = .table ((name, value) :: members) :=
    ⟨_, _, _, rfl⟩
  obtain ⟨name, value, members, table⟩ := table
  refine ⟨Utf8.encode (Json.literal name ++ [':'] ++ Json.render value ++
    Json.renderMembers members), ?_⟩
  have opening : Utf8.encode ['\x7b'] = [0x7B] := by decide
  have closing : Utf8.encode ['\x7d'] = [0x7D] := by decide
  rw [lineBody, table, Json.render]
  simp only [Utf8.encode_append, opening, closing]
  simp only [List.append_assoc, List.cons_append, List.nil_append]

theorem withoutLast_of_printable {bytes : Bytes} {last : UInt8} (control : last.toNat < 0x20)
    (printable : ∀ byte ∈ bytes, 0x20 ≤ byte.toNat) : withoutLast last bytes = bytes := by
  rw [withoutLast, if_neg]
  intro ends
  have member := List.mem_of_getLast? (beq_iff_eq.mp ends)
  exact Nat.not_le.mpr control (printable last member)

/-- No record is read from the beginning of an object that is not the whole one. -/
theorem ofLine?_beginning {entry : Entry} {front rest : Bytes}
    (whole : entry.lineBody = front ++ rest) (begun : front ≠ []) (torn : rest ≠ []) :
    ofLine? front = none := by
  have printable : ∀ byte ∈ front, 0x20 ≤ byte.toNat := fun byte member =>
    le_of_mem_lineBody (whole ▸ List.mem_append_left rest member)
  obtain ⟨inner, braces⟩ := entry.lineBody_braces
  obtain ⟨first, front, rfl⟩ := List.exists_cons_of_ne_nil begun
  obtain ⟨middle, last, rfl⟩ := List.eq_nil_or_concat' rest |>.resolve_left torn
  rw [whole] at braces
  have opening : first = 0x7B := by
    simpa using congrArg List.head? braces
  have closing : last = 0x7D := by
    have ends := congrArg List.getLast? braces
    rw [← List.append_assoc, List.getLast?_concat, List.getLast?_concat] at ends
    exact Option.some.inj ends
  subst opening closing
  have parsed := entry.parse?_lineBody
  rw [whole] at parsed
  rw [ofLine?, withoutLast_of_printable (by decide) printable,
    withoutLast_of_printable (by decide) printable, Json.parse?_beginning parsed]
  rfl

/-!
### The file
-/

/-- Entries and the positions at which their objects start in a file of their lines, of which the
first one starts at `start`. -/
def placed (start : Nat) : List Entry → List (Entry × Nat)
  | [] => []
  | entry :: entries => (entry, start) :: placed (start + entry.line.length) entries

/-- The entries whose objects lie before a cut. -/
def survivors (start cut : Nat) (entries : List Entry) : List Entry :=
  ((placed start entries).filter fun found =>
    found.2 + found.1.lineBody.length ≤ cut).map Prod.fst

/-- Whether a cut goes through an object. -/
def isTorn (start cut : Nat) (entries : List Entry) : Bool :=
  (placed start entries).any fun found =>
    found.2 < cut && cut < found.2 + found.1.lineBody.length

variable {entry : Entry} {entries : List Entry} {start cut : Nat}

theorem length_line (entry : Entry) : entry.line.length = entry.lineBody.length + 1 := by
  rw [line, List.length_append, List.length_singleton]

/-- What a cut leaves of the first object is a piece, and the others do not depend on it. -/
theorem pieces_take_lines (entry : Entry) (entries : List Entry) (start cut : Nat) :
    pieces ((lines (entry :: entries)).take (cut - start)) =
      (if start < cut then [entry.lineBody.take (cut - start)] else []) ++
        pieces ((lines entries).take (cut - (start + entry.line.length))) := by
  have whole : lines (entry :: entries) = entry.lineBody ++ newline :: lines entries := by
    simp [lines, line]
  rw [whole, List.take_append, length_line]
  by_cases reached : start < cut
  · rw [if_pos reached]
    have plain : Backward.newline ∉ entry.lineBody.take (cut - start) := fun member =>
      entry.newline_not_mem_lineBody (List.mem_of_mem_take member)
    have begun : entry.lineBody.take (cut - start) ≠ [] := by
      have present := List.length_pos_iff.mpr entry.lineBody_ne_nil
      rw [← List.length_pos_iff, List.length_take]
      omega
    by_cases ended : start + entry.lineBody.length < cut
    · obtain ⟨more, after⟩ : ∃ more, cut - start - entry.lineBody.length = more + 1 :=
        ⟨cut - start - entry.lineBody.length - 1, by omega⟩
      have left : cut - (start + (entry.lineBody.length + 1)) = more := by omega
      rw [after, left, List.take_succ_cons]
      exact Backward.pieces_cons plain begun _
    · have none : cut - start - entry.lineBody.length = 0 := by omega
      have left : cut - (start + (entry.lineBody.length + 1)) = 0 := by omega
      rw [none, left, List.take_zero, List.take_zero, List.append_nil,
        Backward.pieces_of_not_mem plain begun]
      rfl
  · have none : cut - start = 0 := by omega
    have left : cut - (start + (entry.lineBody.length + 1)) = 0 := by omega
    rw [if_neg reached, none, left]
    simp

theorem survivors_cons (entry : Entry) (entries : List Entry) (start cut : Nat) :
    survivors start cut (entry :: entries) =
      (if start + entry.lineBody.length ≤ cut then [entry] else []) ++
        survivors (start + entry.line.length) cut entries := by
  rw [survivors, placed, List.filter_cons]
  split
  · rename_i kept
    rw [if_pos (of_decide_eq_true kept)]
    rfl
  · rename_i lost
    rw [if_neg fun kept => lost (decide_eq_true kept)]
    rfl

theorem isTorn_cons (entry : Entry) (entries : List Entry) (start cut : Nat) :
    isTorn start cut (entry :: entries) =
      ((start < cut && cut < start + entry.lineBody.length) ||
        isTorn (start + entry.line.length) cut entries) := by
  rw [isTorn, placed, List.any_cons]
  rfl

/-- Of a file that is cut off every object before the cut is read and no other one, and one piece is
not read if the cut goes through an object. -/
theorem read_take_lines (entries : List Entry) (start cut : Nat) :
    (pieces ((lines entries).take (cut - start))).filterMap ofLine? = survivors start cut entries ∧
      (pieces ((lines entries).take (cut - start))).countP (fun piece => (ofLine? piece).isNone) =
        if isTorn start cut entries then 1 else 0 := by
  induction entries generalizing start with
  | nil => simp [lines, survivors, isTorn, placed]
  | cons entry entries ih =>
      obtain ⟨read, unread⟩ := ih (start + entry.line.length)
      rw [pieces_take_lines, List.filterMap_append, List.countP_append, read, unread,
        survivors_cons, isTorn_cons]
      by_cases reached : start < cut
      · by_cases whole : start + entry.lineBody.length ≤ cut
        · have kept : entry.lineBody.take (cut - start) = entry.lineBody :=
            List.take_of_length_le (by omega)
          have apart : ¬cut < start + entry.lineBody.length := Nat.not_lt.mpr whole
          simp [reached, whole, apart, kept, ofLine?_lineBody]
        · -- The cut goes through this object, so nothing is left of those behind it.
          have beyond : cut - (start + entry.line.length) = 0 := by
            rw [length_line]
            omega
          have calm : isTorn (start + entry.line.length) cut entries = false := by
            rw [beyond, List.take_zero, Backward.pieces_nil, List.countP_nil] at unread
            simpa using unread
          have split := (List.take_append_drop (cut - start) entry.lineBody).symm
          have present := List.length_pos_iff.mpr entry.lineBody_ne_nil
          have torn : ofLine? (entry.lineBody.take (cut - start)) = none := by
            refine ofLine?_beginning split ?_ ?_
            · rw [← List.length_pos_iff, List.length_take]
              omega
            · rw [← List.length_pos_iff, List.length_drop]
              omega
          simp [reached, whole, Nat.not_le.mp whole, torn, calm]
      · have lost : ¬start + entry.lineBody.length ≤ cut := by
          have present := List.length_pos_iff.mpr entry.lineBody_ne_nil
          omega
        simp [reached, lost]

/-- Every piece of a file that is cut off is no longer than the object that it is of. -/
theorem length_pieces_take (entries : List Entry) (start cut : Nat) :
    ∀ piece ∈ pieces ((lines entries).take (cut - start)),
      ∃ entry ∈ entries, piece.length ≤ entry.lineBody.length := by
  induction entries generalizing start with
  | nil => simp [lines]
  | cons entry entries ih =>
      intro piece member
      rw [pieces_take_lines, List.mem_append] at member
      rcases member with first | later
      · split at first
        · rw [List.mem_singleton.mp first, List.length_take]
          exact ⟨entry, List.mem_cons_self, Nat.min_le_right _ _⟩
        · simp at first
      · obtain ⟨other, member, bounded⟩ := ih _ piece later
        exact ⟨other, List.mem_cons_of_mem _ member, bounded⟩

/-- What a search reads in a file that is cut off, the newest record first. -/
theorem items_take_lines (short : ∀ entry ∈ entries, entry.lineBody.length ≤ maxLineLength)
    (cut : Nat) :
    (Reader.ofContent ((lines entries).take cut) none).items.filterMap entryOf? =
        (survivors 0 cut entries).reverse ∧
      (Reader.ofContent ((lines entries).take cut) none).items.countP isSkipped =
        if isTorn 0 cut entries then 1 else 0 := by
  have bounded : ∀ piece ∈ pieces (Reader.counted ((lines entries).take cut) none),
      piece.length ≤ maxLineLength := by
    intro piece member
    obtain ⟨entry, there, within⟩ := length_pieces_take entries 0 cut piece member
    exact Nat.le_trans within (short entry there)
  obtain ⟨read, unread⟩ := read_take_lines entries 0 cut
  rw [Reader.items_of_short bounded]
  constructor
  · rw [List.filterMap_map, List.filterMap_reverse]
    exact congrArg List.reverse read
  · rw [List.countP_map, List.countP_reverse]
    exact unread

end QueryJournal.Entry
