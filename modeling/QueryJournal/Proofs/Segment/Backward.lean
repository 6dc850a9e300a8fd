import Mathlib.Data.List.Forall2
import Mathlib.Logic.Relation
import QueryJournal.Proofs.Segment.Pieces

namespace QueryJournal.Backward

open QueryJournal.Utf8 (Bytes)

/-!
A reader finds every line of a content once, the last one first. What it still has to find is the
lines of `ahead`, which no step of the reader's loop changes; a line is found when it leaves
`ahead`, and one that is too long leaves it when it is reported.
-/

variable {reader after : Reader} {item : Option Item} {line rest : Bytes}

namespace Reader

/-- The bytes that were not passed yet, in reverse. What is left of a line that was already
reported does not count. -/
def ahead (reader : Reader) : Bytes :=
  if reader.discarding then
    ((reader.window ++ reader.unread).dropWhile (· != newline)).tail
  else reader.window ++ reader.unread

/-- Everything can be read, and the window holds at most one chunk more than the longest line. -/
structure Sound (reader : Reader) : Prop where
  readable : reader.unreadable = 0
  fits : reader.window.length ≤ maxLineLength + chunkLength

def linesAhead (reader : Reader) : List Bytes :=
  pieces reader.ahead

/-- What it means for an item to be found between the lines that were ahead before it and those
that are ahead after it. -/
def Finds (before later : List Bytes) : Option Item → Prop
  | none => before = [] ∧ later = []
  | some (.line bytes) =>
      bytes.length < maxLineLength + chunkLength ∧ before = bytes.reverse :: later
  | some (.oversized _) => ∃ piece, maxLineLength < piece.length ∧ before = piece :: later
  | some .unreadable => False

theorem Sound.not_isStuck (sound : reader.Sound) : reader.isStuck = false := by
  rw [isStuck, sound.readable]
  exact decide_eq_false (by omega)

theorem sound_ofContent (content : Bytes) (limit : Option Nat) : (ofContent content limit).Sound :=
  { readable := rfl
    fits := Nat.zero_le _ }

theorem Sound.of_le (sound : reader.Sound) (same : after.unreadable = reader.unreadable)
    (shorter : after.window.length ≤ reader.window.length) : after.Sound :=
  { readable := same.trans sound.readable
    fits := Nat.le_trans shorter sound.fits }

theorem Sound.withChunk (sound : reader.Sound) (short : reader.window.length ≤ maxLineLength) :
    reader.withChunk.Sound :=
  { readable := sound.readable
    fits := by
      simp only [Reader.withChunk, List.length_append, List.length_take]
      omega }

theorem ahead_withChunk (reader : Reader) : reader.withChunk.ahead = reader.ahead := by
  simp only [ahead, Reader.withChunk, List.append_assoc, List.take_append_drop]

theorem dropWhile_of_not_mem (plain : newline ∉ line) (rest : Bytes) :
    (line ++ rest).dropWhile (· != newline) = rest.dropWhile (· != newline) := by
  refine List.dropWhile_append_of_pos ?_
  intro byte member
  simpa using fun same : byte = newline => plain (same ▸ member)

/-- The rest of a reported line is passed over without being looked at. -/
theorem ahead_discarding (reported : reader.discarding = true)
    (plain : newline ∉ reader.window) : { reader with window := [] }.ahead = reader.ahead := by
  simp only [ahead, reported, ↓reduceIte, List.nil_append, dropWhile_of_not_mem plain]

theorem ahead_after_discarded (reported : reader.discarding = true) (plain : newline ∉ line)
    (split : reader.window = line ++ newline :: rest) :
    { reader with window := rest, discarding := false }.ahead = reader.ahead := by
  simp only [ahead, reported, split, ↓reduceIte, List.append_assoc, dropWhile_of_not_mem plain]
  rfl

/-- A line of which a part was read ends at the next newline of what was not read. -/
theorem pieces_unfinished (plain : newline ∉ line) (present : line ≠ []) (unread : Bytes) :
    ∃ more, pieces (line ++ unread) =
      (line ++ more) :: pieces (unread.dropWhile (· != newline)).tail := by
  have longer : ∀ more : Bytes, line ++ more ≠ [] := fun more =>
    List.append_ne_nil_of_left_ne_nil present more
  rcases splitLine_cases unread with none | ⟨more, rest, rfl, apart⟩
  · have passed := dropWhile_of_not_mem none []
    rw [List.append_nil] at passed
    refine ⟨unread, ?_⟩
    rw [pieces_of_not_mem (by simp [plain, none]) (longer unread), passed, List.dropWhile_nil,
      List.tail_nil, pieces_nil]
  · refine ⟨more, ?_⟩
    rw [← List.append_assoc, pieces_cons (by simp [plain, apart]) (longer more),
      dropWhile_of_not_mem apart]
    rfl

/-!
### What the loop does

The loop goes through steps that find nothing until one finds something. All that is said about
`next` is said about these steps.
-/

/-- A step that finds nothing: past what is left of a line that was reported, past an empty line, or
to the chunk before what is held. -/
inductive Advances : Reader → Reader → Prop where
  | resume {reader : Reader} {line rest : Bytes} (reported : reader.discarding = true)
      (window : reader.window = line ++ newline :: rest) (plain : newline ∉ line) :
      Advances reader { reader with window := rest, discarding := false }
  | blank {reader : Reader} {rest : Bytes} (kept : reader.discarding = false)
      (window : reader.window = newline :: rest) : Advances reader { reader with window := rest }
  | forget {reader : Reader} (reported : reader.discarding = true)
      (plain : newline ∉ reader.window) : Advances reader { reader with window := [] }
  | chunk {reader : Reader} (plain : newline ∉ reader.window)
      (short : reader.window.length ≤ maxLineLength) (present : reader.unread ≠ []) :
      Advances reader reader.withChunk

/-- What a step finds. -/
inductive Yields (reader : Reader) : Option Item → Reader → Prop where
  | nothing (unread : reader.unread = []) (window : reader.window = []) :
      Yields reader none { reader with discarding := false }
  | line {line rest : Bytes} (kept : reader.discarding = false)
      (window : reader.window = line ++ newline :: rest) (plain : newline ∉ line)
      (present : line ≠ []) :
      Yields reader (some (.line line.reverse)) { reader with window := rest }
  | first (kept : reader.discarding = false) (unread : reader.unread = [])
      (plain : newline ∉ reader.window) (present : reader.window ≠ [])
      (short : reader.window.length ≤ maxLineLength) :
      Yields reader (some (.line reader.window.reverse)) { reader with window := [] }
  | oversized (kept : reader.discarding = false) (plain : newline ∉ reader.window)
      (long : maxLineLength < reader.window.length) :
      Yields reader (some (.oversized reader.window.length))
        { reader with window := [], discarding := true }

/-- What a step does not find is nothing but newlines. -/
theorem Advances.ahead (step : Advances reader after) :
    reader.ahead = after.ahead ∨ reader.ahead = newline :: after.ahead := by
  cases step with
  | resume reported window plain => exact .inl (ahead_after_discarded reported plain window).symm
  | blank kept window =>
      refine .inr ?_
      simp only [Reader.ahead, kept, window, Bool.false_eq_true, ↓reduceIte, List.cons_append]
  | forget reported plain => exact .inl (ahead_discarding reported plain).symm
  | chunk => exact .inl (ahead_withChunk reader).symm

theorem Sound.advance (sound : reader.Sound) (step : Advances reader after) : after.Sound := by
  cases step with
  | resume _ window =>
      refine sound.of_le rfl ?_
      simp only [window, List.length_append, List.length_cons]
      omega
  | blank _ window =>
      refine sound.of_le rfl ?_
      simp only [window, List.length_cons]
      omega
  | forget => exact sound.of_le rfl (Nat.zero_le _)
  | chunk _ short => exact sound.withChunk short

/-- Steps that find nothing leave the lines that are ahead. -/
theorem Sound.advances {last : Reader} (sound : reader.Sound)
    (steps : Relation.ReflTransGen Advances reader last) :
    last.Sound ∧ reader.linesAhead = last.linesAhead := by
  induction steps with
  | refl => exact ⟨sound, rfl⟩
  | tail _ step ih =>
      refine ⟨ih.1.advance step, ih.2.trans ?_⟩
      rcases step.ahead with same | newline
      · rw [linesAhead, same, linesAhead]
      · rw [linesAhead, newline, pieces_newline, linesAhead]

theorem Sound.yield (sound : reader.Sound) (yields : reader.Yields item after) :
    after.Sound := by
  cases yields with
  | nothing => exact sound.of_le rfl (Nat.le_refl _)
  | line _ window =>
      refine sound.of_le rfl ?_
      simp only [window, List.length_append, List.length_cons]
      omega
  | first | oversized => exact sound.of_le rfl (Nat.zero_le _)

theorem Yields.finds (yields : reader.Yields item after) (sound : reader.Sound) :
    Finds reader.linesAhead after.linesAhead item := by
  cases yields with
  | nothing unread window =>
      constructor <;> simp [linesAhead, Reader.ahead, unread, window]
  | @line line rest kept window plain present =>
      have fits := sound.fits
      rw [window, List.length_append, List.length_cons] at fits
      refine ⟨by rw [List.length_reverse]; omega, ?_⟩
      simp only [linesAhead, Reader.ahead, kept, window, Bool.false_eq_true, ↓reduceIte,
        List.append_assoc, List.cons_append, pieces_cons plain present, List.reverse_reverse]
  | first kept unread plain present short =>
      refine ⟨?_, ?_⟩
      · rw [List.length_reverse]
        exact Nat.lt_of_le_of_lt short (by decide)
      · simp only [linesAhead, Reader.ahead, kept, unread, Bool.false_eq_true, ↓reduceIte,
          List.append_nil, pieces_of_not_mem plain present, List.reverse_reverse, pieces_nil]
  | oversized kept plain long =>
      have present : reader.window ≠ [] := List.ne_nil_of_length_pos (Nat.zero_lt_of_lt long)
      obtain ⟨more, whole⟩ := pieces_unfinished plain present reader.unread
      refine ⟨reader.window ++ more, ?_, ?_⟩
      · rw [List.length_append]
        omega
      · simp only [linesAhead, Reader.ahead, kept, Bool.false_eq_true, ↓reduceIte,
          List.nil_append, whole]

/-- The loop finds what it finds after steps that find nothing. -/
theorem next_yields (found : reader.next = (item, after)) (sound : reader.Sound) :
    ∃ last, Relation.ReflTransGen Advances reader last ∧ last.Yields item after := by
  fun_induction next reader generalizing after item with
  | case1 reader line rest split reported ih =>
      obtain ⟨window, plain⟩ := splitLine_append split
      have step := Advances.resume reported window plain
      obtain ⟨last, steps, yields⟩ := ih found (sound.advance step)
      exact ⟨last, .head step steps, yields⟩
  | case2 reader line rest split reported empty ih =>
      have kept : reader.discarding = false := by simpa using reported
      have window := (splitLine_append split).1
      rw [List.isEmpty_iff.mp empty, List.nil_append] at window
      have step := Advances.blank kept window
      obtain ⟨last, steps, yields⟩ := ih found (sound.advance step)
      exact ⟨last, .head step steps, yields⟩
  | case3 reader line rest split reported empty =>
      have kept : reader.discarding = false := by simpa using reported
      have present : line ≠ [] := fun none => empty (List.isEmpty_iff.mpr none)
      obtain ⟨window, plain⟩ := splitLine_append split
      cases found
      exact ⟨reader, .refl, .line kept window plain present⟩
  | case4 reader line split reported empty =>
      have plain := not_mem_of_splitLine split
      rw [← splitLine_none split] at plain
      cases found
      exact ⟨_, .single (.forget reported plain), .nothing (List.isEmpty_iff.mp empty) rfl⟩
  | case5 reader line split reported empty stuck =>
      rw [sound.not_isStuck] at stuck
      contradiction
  | case6 reader line split reported empty _ ih =>
      have plain := not_mem_of_splitLine split
      rw [← splitLine_none split] at plain
      have present : reader.unread ≠ [] := fun none => empty (List.isEmpty_iff.mpr none)
      have forget := Advances.forget reported plain
      have chunk : Advances { reader with window := [] } { reader with window := [] }.withChunk :=
        .chunk List.not_mem_nil (Nat.zero_le _) present
      obtain ⟨last, steps, yields⟩ := ih found ((sound.advance forget).advance chunk)
      exact ⟨last, .head forget (.head chunk steps), yields⟩
  | case7 reader line split reported long =>
      have kept : reader.discarding = false := by simpa using reported
      have plain := not_mem_of_splitLine split
      rw [← splitLine_none split] at plain long found
      cases found
      exact ⟨reader, .refl, .oversized kept plain long⟩
  | case8 reader line split reported _ empty blank =>
      have kept : reader.discarding = false := by simpa using reported
      have window := splitLine_none split
      rw [List.isEmpty_iff.mp blank] at window
      have same : reader = { reader with discarding := false } := by rw [← kept]
      cases found
      refine ⟨reader, .refl, ?_⟩
      conv => rhs; rw [same]
      exact .nothing (List.isEmpty_iff.mp empty) window
  | case9 reader line split reported long empty blank =>
      have kept : reader.discarding = false := by simpa using reported
      have plain := not_mem_of_splitLine split
      have present : line ≠ [] := fun none => blank (List.isEmpty_iff.mpr none)
      rw [← splitLine_none split] at plain present long found
      cases found
      exact ⟨reader, .refl,
        .first kept (List.isEmpty_iff.mp empty) plain present (Nat.le_of_not_lt long)⟩
  | case10 reader line split reported _ empty stuck =>
      rw [sound.not_isStuck] at stuck
      contradiction
  | case11 reader line split reported long empty _ ih =>
      have plain := not_mem_of_splitLine split
      rw [← splitLine_none split] at plain long
      have present : reader.unread ≠ [] := fun none => empty (List.isEmpty_iff.mpr none)
      have step := Advances.chunk plain (Nat.le_of_not_lt long) present
      obtain ⟨last, steps, yields⟩ := ih found (sound.advance step)
      exact ⟨last, .head step steps, yields⟩

theorem next_finds (found : reader.next = (item, after)) (sound : reader.Sound) :
    after.Sound ∧ Finds reader.linesAhead after.linesAhead item := by
  obtain ⟨last, steps, yields⟩ := next_yields found sound
  obtain ⟨sound, same⟩ := sound.advances steps
  rw [same]
  exact ⟨sound.yield yields, yields.finds sound⟩

/-!
### All items of a file
-/

/-- The items that a reader finds one after another, up to a failure of the system. -/
def items (reader : Reader) : List Item :=
  match _found : reader.next with
  | (none, _) => []
  | (some .unreadable, _) => []
  | (some (.oversized length), after) => .oversized length :: items after
  | (some (.line bytes), after) => .line bytes :: items after
termination_by reader.size
decreasing_by
  all_goals exact next_size_lt _found (by simp)

theorem items_of_none (found : reader.next = (none, after)) : reader.items = [] := by
  rw [items]
  split <;> simp_all

theorem items_of_unreadable (found : reader.next = (some .unreadable, after)) :
    reader.items = [] := by
  rw [items]
  split <;> simp_all

theorem items_of_oversized {length : Nat} (found : reader.next = (some (.oversized length), after)) :
    reader.items = .oversized length :: after.items := by
  rw [items]
  split <;> simp_all

theorem items_of_line {bytes : Bytes} (found : reader.next = (some (.line bytes), after)) :
    reader.items = .line bytes :: after.items := by
  rw [items]
  split <;> simp_all

/-- What an item may say about a line: its bytes, or that it is longer than the longest line. -/
def Reports (piece : Bytes) : Item → Prop
  | .line bytes => bytes = piece ∧ bytes.length < maxLineLength + chunkLength
  | .oversized _ => maxLineLength < piece.length
  | .unreadable => False

theorem items_report (sound : reader.Sound) :
    List.Forall₂ Reports (reader.linesAhead.map List.reverse) reader.items := by
  fun_induction items reader with
  | case1 reader after found =>
      obtain ⟨_, nothing, _⟩ := next_finds found sound
      rw [nothing]
      exact .nil
  | case2 reader after found =>
      obtain ⟨_, impossible⟩ := next_finds found sound
      exact impossible.elim
  | case3 reader length after found ih =>
      obtain ⟨later, piece, long, next⟩ := next_finds found sound
      rw [next, List.map_cons]
      refine .cons ?_ (ih later)
      rw [Reports, List.length_reverse]
      exact long
  | case4 reader bytes after found ih =>
      obtain ⟨later, bounded, next⟩ := next_finds found sound
      rw [next, List.map_cons, List.reverse_reverse]
      exact .cons ⟨rfl, bounded⟩ (ih later)

def counted (content : Bytes) (limit : Option Nat) : Bytes :=
  match limit with
  | none => content
  | some limit => content.take limit

/-- Reading backwards reports the lines of a content, the last one first. -/
theorem items_ofContent (content : Bytes) (limit : Option Nat) :
    List.Forall₂ Reports (pieces (counted content limit)).reverse
      (ofContent content limit).items := by
  have report := items_report (sound_ofContent content limit)
  have ahead : (ofContent content limit).linesAhead = pieces (counted content limit).reverse := by
    cases limit <;> rfl
  rw [ahead, pieces_reverse, List.map_reverse, List.map_map] at report
  simpa using report

theorem eq_map_of_reports {lines : List Bytes} {items : List Item}
    (reports : List.Forall₂ Reports lines items)
    (short : ∀ line ∈ lines, line.length ≤ maxLineLength) : items = lines.map .line := by
  induction reports with
  | nil => rfl
  | @cons line item lines items report _ ih =>
      rw [List.map_cons, ih fun other member => short other (List.mem_cons_of_mem _ member)]
      cases item with
      | line bytes => rw [report.1]
      | oversized length => exact absurd report (Nat.not_lt.mpr (short _ List.mem_cons_self))
      | unreadable => exact report.elim

theorem items_of_short {content : Bytes} {limit : Option Nat}
    (short : ∀ line ∈ pieces (counted content limit), line.length ≤ maxLineLength) :
    (ofContent content limit).items = (pieces (counted content limit)).reverse.map .line :=
  eq_map_of_reports (items_ofContent content limit) (by simpa using short)

end Reader

end QueryJournal.Backward
