import Mathlib.Data.List.GetD
import QueryJournal.Proofs.Segment.Calls

namespace QueryJournal.Backward

open QueryJournal.Utf8 (Bytes)

/-!
Which lines are reported as too long. A reader looks at the length of what it holds only where a
chunk begins. A line that gets too long within the chunk that also brings the newline before it is
told none the less, so the longest line that is told depends on where the line starts.
-/

variable {total : Nat} {content line rest : Bytes}

/-- The length up to which a line is told that has so many bytes before it, and so many from its
first one to the end of the file. The first line of a file has no newline before it. -/
def tolerated (before remaining : Nat) : Nat :=
  maxLineLength + if before = 0 then 0 else remaining % chunkLength

/-- The bytes of a line that are held when it is reported. -/
def readSoFar (length after : Nat) : Nat :=
  min length (maxLineLength + chunkLength - after % chunkLength)

/-- What is found of a line that has so many bytes before and after it. -/
def verdict (before : Nat) (line : Bytes) (after : Nat) : Item :=
  if line.length ≤ tolerated before (line.length + after) then .line line
  else .oversized (readSoFar line.length after)

/-- What is found of the lines of the first part of a file, which is given in reverse. -/
def verdicts (total : Nat) (ahead : Bytes) : List Item :=
  match _split : Reader.splitLine ahead with
  | (line, some rest) =>
    if line.isEmpty then verdicts total rest
    else verdict (rest.length + 1) line.reverse (total - ahead.length) :: verdicts total rest
  | (line, none) =>
    if line.isEmpty then [] else [verdict 0 line.reverse (total - ahead.length)]
termination_by ahead.length
decreasing_by
  all_goals
    have shorter := Reader.splitLine_length _split
    omega

theorem splitLine_cons (plain : newline ∉ line) (rest : Bytes) :
    Reader.splitLine (line ++ newline :: rest) = (line, some rest) := by
  have all : ∀ byte ∈ line, (byte != newline) = true := by
    intro byte member
    simpa using fun same : byte = newline => plain (same ▸ member)
  rw [Reader.splitLine, List.takeWhile_append_of_pos all, List.dropWhile_append_of_pos all]
  simp

theorem splitLine_of_not_mem (plain : newline ∉ line) :
    Reader.splitLine line = (line, none) := by
  cases split : Reader.splitLine line with
  | mk first rest =>
      cases rest with
      | none => rw [Reader.splitLine_none split]
      | some rest => simp [(splitLine_append split).1] at plain

theorem verdicts_nil (total : Nat) : verdicts total [] = [] := by
  rw [verdicts, splitLine_of_not_mem List.not_mem_nil]
  rfl

theorem verdicts_newline (total : Nat) (rest : Bytes) :
    verdicts total (newline :: rest) = verdicts total rest := by
  have split : Reader.splitLine (newline :: rest) = ([], some rest) :=
    splitLine_cons List.not_mem_nil rest
  rw [verdicts, split]
  rfl

theorem verdicts_cons (total : Nat) (plain : newline ∉ line) (present : line ≠ [])
    (rest : Bytes) :
    verdicts total (line ++ newline :: rest) =
      verdict (rest.length + 1) line.reverse (total - (line ++ newline :: rest).length) ::
        verdicts total rest := by
  rw [verdicts, splitLine_cons plain]
  simp [present]

theorem verdicts_of_not_mem (total : Nat) (plain : newline ∉ line) (present : line ≠ []) :
    verdicts total line = [verdict 0 line.reverse (total - line.length)] := by
  rw [verdicts, splitLine_of_not_mem plain]
  simp [present]

theorem length_verdicts (total : Nat) (content : Bytes) :
    (verdicts total content).length = (pieces content).length := by
  fun_induction verdicts total content with
  | case1 ahead line rest split empty ih =>
      have none : line = [] := List.isEmpty_iff.mp empty
      rw [(splitLine_append split).1, none, List.nil_append, pieces_newline, ih]
  | case2 ahead line rest split empty ih =>
      have present : line ≠ [] := fun none => empty (List.isEmpty_iff.mpr none)
      obtain ⟨rfl, plain⟩ := splitLine_append split
      rw [pieces_cons plain present, List.length_cons, List.length_cons, ih]
  | case3 ahead line split empty =>
      rw [Reader.splitLine_none split, List.isEmpty_iff.mp empty]
      rfl
  | case4 ahead line split empty =>
      have present : line ≠ [] := fun none => empty (List.isEmpty_iff.mpr none)
      rw [Reader.splitLine_none split, pieces_of_not_mem (not_mem_of_splitLine split) present]
      rfl

theorem verdicts_suffix_line (total : Nat) (plain : newline ∉ line) (rest : Bytes) :
    verdicts total rest <:+ verdicts total (line ++ newline :: rest) := by
  by_cases present : line = []
  · have same : verdicts total (line ++ newline :: rest) = verdicts total rest := by
      rw [present, List.nil_append, verdicts_newline]
    exact same ▸ List.suffix_refl _
  · rw [verdicts_cons total plain present]
    exact List.suffix_cons _ _

theorem verdicts_suffix (total : Nat) (left right : Bytes) :
    verdicts total right <:+ verdicts total (left ++ newline :: right) := by
  induction measured : left.length using Nat.strongRecOn generalizing left with
  | _ length ih =>
      rcases splitLine_cases left with plain | ⟨line, rest, rfl, plain⟩
      · exact verdicts_suffix_line total plain right
      · have shorter : rest.length < length := by
          rw [← measured, List.length_append, List.length_cons]
          omega
        rw [List.append_assoc, List.cons_append]
        exact (ih _ shorter rest rfl).trans (verdicts_suffix_line total plain _)

theorem verdicts_unfinished (total : Nat) (plain : newline ∉ line) (present : line ≠ [])
    (unread : Bytes) :
    ∃ before more, before + more.length = unread.length ∧
      verdicts total (line ++ unread) =
        verdict before (line ++ more).reverse (total - (line ++ unread).length) ::
          verdicts total (unread.dropWhile (· != newline)).tail := by
  have longer : ∀ more : Bytes, line ++ more ≠ [] := fun more =>
    List.append_ne_nil_of_left_ne_nil present more
  rcases splitLine_cases unread with none | ⟨more, rest, rfl, apart⟩
  · have passed := Reader.dropWhile_of_not_mem none []
    rw [List.append_nil] at passed
    refine ⟨0, unread, Nat.zero_add _, ?_⟩
    rw [verdicts_of_not_mem total (by simp [plain, none]) (longer unread), passed,
      List.dropWhile_nil, List.tail_nil, verdicts_nil]
  · refine ⟨rest.length + 1, more, ?_, ?_⟩
    · rw [List.length_append, List.length_cons]
      omega
    · rw [← List.append_assoc, verdicts_cons total (by simp [plain, apart]) (longer more),
        Reader.dropWhile_of_not_mem apart]
      rfl

namespace Reader

variable {reader after : Reader} {item : Option Item}

/-- What is held is some bytes of older chunks, which were looked at, and what is left of the last
chunk, which begins where an older one ends. -/
structure Grown (total : Nat) (reader : Reader) (old last : Bytes) : Prop where
  window : reader.window = old ++ last
  plain : newline ∉ old
  short : old.length ≤ maxLineLength
  fits : last.length ≤ chunkLength
  boundary : old = [] ∨ chunkLength ∣ total - (reader.unread.length + last.length)

/-- What holds of a reader between two steps in a file of so many bytes. The chunks are counted from
the end of the file. -/
structure Aligned (total : Nat) (reader : Reader) : Prop where
  inside : reader.size ≤ total
  boundary : reader.unread = [] ∨ chunkLength ∣ total - reader.unread.length
  grown : ∃ old last, reader.Grown total old last

theorem grown_last (total : Nat) (fits : reader.window.length ≤ chunkLength) :
    reader.Grown total [] reader.window :=
  { window := rfl
    plain := List.not_mem_nil
    short := Nat.zero_le _
    fits
    boundary := .inl rfl }

theorem aligned_ofContent (content : Bytes) (limit : Option Nat) :
    (ofContent content limit).Aligned (counted content limit).length := by
  have length : (ofContent content limit).unread.length = (counted content limit).length := by
    cases limit <;> simp [ofContent, counted]
  exact
    { inside := by rw [size, length]; exact Nat.le_refl _
      boundary := .inr (by rw [length, Nat.sub_self]; exact Nat.dvd_zero _)
      grown := ⟨_, _, grown_last _ (Nat.zero_le _)⟩ }

theorem Aligned.cleared (aligned : reader.Aligned total) (discarding : Bool) :
    { reader with window := [], discarding }.Aligned total :=
  { inside := by
      have inside := aligned.inside
      simp only [size, List.length_nil] at inside ⊢
      omega
    boundary := aligned.boundary
    grown := ⟨_, _, grown_last _ (Nat.zero_le _)⟩ }

theorem Aligned.newline_in_last (aligned : reader.Aligned total)
    (window : reader.window = line ++ newline :: rest) :
    ∃ old part, line = old ++ part ∧ old.length ≤ maxLineLength ∧
      part.length + 1 + rest.length ≤ chunkLength ∧
        (old = [] ∨ chunkLength ∣
          total - (reader.unread.length + (part.length + 1 + rest.length))) := by
  obtain ⟨old, last, grown⟩ := aligned.grown
  rw [grown.window] at window
  -- The newline cannot lie in the older bytes, so they end within the line or at its end.
  rcases List.append_eq_append_iff.mp window with ⟨part, whole, after⟩ | ⟨part, whole, after⟩
  · have length : last.length = part.length + 1 + rest.length := by
      rw [after, List.length_append, List.length_cons]
      omega
    exact ⟨old, part, whole, grown.short, length ▸ grown.fits, length ▸ grown.boundary⟩
  · cases part with
    | nil =>
        rw [List.append_nil] at whole
        rw [List.nil_append] at after
        have length : last.length = 0 + 1 + rest.length := by
          rw [← after, List.length_cons]
          omega
        exact ⟨old, [], by simp [whole], grown.short, length ▸ grown.fits,
          length ▸ grown.boundary⟩
    | cons byte more =>
        rw [List.cons_append, List.cons.injEq] at after
        exact absurd (by simp [whole, after.1]) grown.plain

theorem Aligned.after_newline (aligned : reader.Aligned total)
    (window : reader.window = line ++ newline :: rest) (discarding : Bool) :
    { reader with window := rest, discarding }.Aligned total := by
  obtain ⟨_, _, _, _, short, _⟩ := aligned.newline_in_last window
  exact
    { inside := by
        have inside := aligned.inside
        simp only [size, window, List.length_append, List.length_cons] at inside ⊢
        omega
      boundary := aligned.boundary
      grown := ⟨_, _, grown_last _ (Nat.le_trans (Nat.le_add_left _ _) short)⟩ }

theorem Aligned.withChunk (aligned : reader.Aligned total) (plain : newline ∉ reader.window)
    (short : reader.window.length ≤ maxLineLength) (present : reader.unread ≠ []) :
    reader.withChunk.Aligned total := by
  have boundary := aligned.boundary.resolve_left present
  have inside := aligned.inside
  have whole : (reader.unread.drop chunkLength).length +
      (reader.unread.take chunkLength).length = reader.unread.length := by
    rw [List.length_drop, List.length_take]
    omega
  have grown : reader.withChunk.Grown total reader.window (reader.unread.take chunkLength) :=
    { window := rfl
      plain
      short
      fits := List.length_take_le _ _
      boundary := .inr (by rw [Reader.withChunk, whole]; exact boundary) }
  refine
    { inside := by rw [size_withChunk]; exact inside
      boundary := ?_
      grown := ⟨_, _, grown⟩ }
  by_cases last : reader.unread.length ≤ chunkLength
  · exact .inl (List.drop_eq_nil_of_le last)
  · refine .inr ?_
    simp only [Reader.withChunk, List.length_drop, size, chunkLength] at *
    omega

theorem Aligned.verdict_line (aligned : reader.Aligned total)
    (window : reader.window = line ++ newline :: rest) :
    verdict ((rest ++ reader.unread).length + 1) line.reverse
      (total - (line ++ newline :: (rest ++ reader.unread)).length) = .line line.reverse := by
  obtain ⟨old, part, rfl, bounded, short, boundary⟩ := aligned.newline_in_last window
  have inside := aligned.inside
  -- The part of the line that came with the newline is what is left from its start to the end of
  -- the file once whole chunks are taken away.
  refine if_pos ?_
  simp only [tolerated, Nat.add_eq_zero_iff, Nat.one_ne_zero, and_false, ↓reduceIte,
    List.length_reverse, List.length_append, List.length_cons, size, window] at *
  rcases boundary with rfl | boundary
  · simp only [List.length_nil, maxLineLength, chunkLength] at *
    omega
  · simp only [maxLineLength, chunkLength] at *
    omega

/-- A line that is held without the newline before it and is too long already is one that is not
tolerated, however it goes on. -/
theorem Aligned.verdict_oversized (aligned : reader.Aligned total)
    (long : maxLineLength < reader.window.length) {before : Nat} {more : Bytes}
    (unread : before + more.length = reader.unread.length) :
    verdict before (reader.window ++ more).reverse
      (total - (reader.window ++ reader.unread).length) = .oversized reader.window.length := by
  obtain ⟨old, last, held, _, bounded, fits, start⟩ := aligned.grown
  have inside := aligned.inside
  -- One chunk alone is no longer than a line may be, so the older bytes end where a chunk begins.
  have older : old ≠ [] := by
    rintro rfl
    rw [held, List.nil_append] at long
    simp only [maxLineLength, chunkLength] at long fits
    omega
  have start := start.resolve_left older
  have boundary : reader.unread.length = 0 ∨ chunkLength ∣ total - reader.unread.length :=
    aligned.boundary.imp_left List.length_eq_zero_iff.mpr
  have length : reader.window.length = old.length + last.length := by
    rw [held, List.length_append]
  have beyond : ¬(reader.window.length + more.length ≤ tolerated before
      (reader.window.length + more.length +
        (total - (reader.window.length + reader.unread.length)))) := by
    simp only [tolerated, size, maxLineLength, chunkLength] at *
    split <;> omega
  have read : readSoFar (reader.window.length + more.length)
      (total - (reader.window.length + reader.unread.length)) = reader.window.length := by
    simp only [readSoFar, size, maxLineLength, chunkLength] at *
    omega
  rw [verdict, List.length_reverse, List.length_append, List.length_append, if_neg beyond, read]

theorem Aligned.advance (aligned : reader.Aligned total) (step : Advances reader after) :
    after.Aligned total := by
  cases step with
  | resume _ window => exact aligned.after_newline window false
  | @blank rest _ window =>
      have passed : reader.window = [] ++ newline :: rest := window
      exact aligned.after_newline passed reader.discarding
  | forget => exact aligned.cleared reader.discarding
  | chunk plain short present => exact aligned.withChunk plain short present

theorem Aligned.yield (aligned : reader.Aligned total) (yields : reader.Yields item after) :
    after.Aligned total := by
  cases yields with
  | nothing _ window =>
      have cleared := aligned.cleared false
      rw [← window] at cleared
      exact cleared
  | line _ window => exact aligned.after_newline window reader.discarding
  | first => exact aligned.cleared reader.discarding
  | oversized => exact aligned.cleared true

theorem Aligned.advances {last : Reader} (aligned : reader.Aligned total)
    (steps : Relation.ReflTransGen Advances reader last) :
    last.Aligned total ∧ verdicts total reader.ahead = verdicts total last.ahead := by
  induction steps with
  | refl => exact ⟨aligned, rfl⟩
  | tail _ step ih =>
      refine ⟨ih.1.advance step, ih.2.trans ?_⟩
      rcases step.ahead with same | newline
      · rw [same]
      · rw [newline, verdicts_newline]

theorem Yields.verdicts (yields : reader.Yields item after) (aligned : reader.Aligned total) :
    verdicts total reader.ahead = item.toList ++ verdicts total after.ahead := by
  cases yields with
  | nothing unread window => simp [Reader.ahead, unread, window]
  | line kept window plain present =>
      simp only [Reader.ahead, kept, window, Bool.false_eq_true, ↓reduceIte, List.append_assoc,
        List.cons_append, verdicts_cons total plain present, aligned.verdict_line window,
        Option.toList_some, List.nil_append]
  | first kept unread plain present short =>
      have told : verdict 0 reader.window.reverse (total - reader.window.length) =
          .line reader.window.reverse :=
        if_pos (by simpa [tolerated] using short)
      simp only [Reader.ahead, kept, unread, told, Bool.false_eq_true, ↓reduceIte,
        List.append_nil, verdicts_of_not_mem total plain present, verdicts_nil,
        Option.toList_some]
  | oversized kept plain long =>
      have present : reader.window ≠ [] := List.ne_nil_of_length_pos (Nat.zero_lt_of_lt long)
      obtain ⟨before, more, unread, whole⟩ :=
        verdicts_unfinished total plain present reader.unread
      simp only [Reader.ahead, kept, whole, aligned.verdict_oversized long unread,
        Bool.false_eq_true, ↓reduceIte, List.nil_append, Option.toList_some, List.cons_append]

theorem next_verdicts (found : reader.next = (item, after)) (sound : reader.Sound)
    (aligned : reader.Aligned total) :
    after.Aligned total ∧
      verdicts total reader.ahead = item.toList ++ verdicts total after.ahead := by
  obtain ⟨last, steps, yields⟩ := next_yields found sound
  obtain ⟨aligned, same⟩ := aligned.advances steps
  rw [same]
  exact ⟨aligned.yield yields, yields.verdicts aligned⟩

theorem items_eq_verdicts (sound : reader.Sound) (aligned : reader.Aligned total) :
    reader.items = verdicts total reader.ahead := by
  fun_induction items reader with
  | case1 reader after found =>
      have nothing : pieces reader.ahead = [] := (next_finds found sound).2.1
      refine (List.eq_nil_of_length_eq_zero ?_).symm
      rw [length_verdicts, nothing]
      rfl
  | case2 reader after found => exact (next_finds found sound).2.elim
  | case3 reader length after found ih =>
      obtain ⟨later, next⟩ := next_verdicts found sound aligned
      rw [next, ih (next_finds found sound).1 later, Option.toList_some, List.singleton_append]
  | case4 reader bytes after found ih =>
      obtain ⟨later, next⟩ := next_verdicts found sound aligned
      rw [next, ih (next_finds found sound).1 later, Option.toList_some, List.singleton_append]

theorem items_ofContent_eq_verdicts (content : Bytes) (limit : Option Nat) :
    (ofContent content limit).items =
      verdicts (counted content limit).length (counted content limit).reverse := by
  rw [items_eq_verdicts (sound_ofContent content limit) (aligned_ofContent content limit)]
  cases limit <;> rfl

/-!
### One line of a file
-/

/-- A line of a content, with what stands before and behind it. -/
structure Stands (content before line behind : Bytes) : Prop where
  whole : content = before ++ line ++ behind
  plain : newline ∉ line
  present : line ≠ []
  starts : before = [] ∨ ∃ front, before = front ++ [newline]
  ends : behind = [] ∨ ∃ rest, behind = newline :: rest

variable {before behind : Bytes} {limit : Option Nat}

theorem Stands.reverse (stands : Stands content before line behind) :
    content.reverse = behind.reverse ++ (line.reverse ++ before.reverse) := by
  rw [stands.whole, List.reverse_append, List.reverse_append]

theorem Stands.verdicts_from_line (stands : Stands content before line behind) :
    ∃ later, verdicts content.length (line.reverse ++ before.reverse) =
      verdict before.length line behind.length :: later := by
  have plain : newline ∉ line.reverse := by simpa using stands.plain
  have present : line.reverse ≠ [] := by simpa using stands.present
  have passed : content.length - (line.reverse ++ before.reverse).length = behind.length := by
    simp only [stands.whole, List.length_append, List.length_reverse]
    omega
  rcases stands.starts with rfl | ⟨front, rfl⟩
  · rw [List.reverse_nil, List.append_nil] at passed ⊢
    rw [verdicts_of_not_mem _ plain present, passed, List.reverse_reverse]
    exact ⟨[], rfl⟩
  · rw [List.reverse_concat] at passed ⊢
    rw [verdicts_cons _ plain present, passed, List.reverse_reverse, List.length_reverse,
      List.length_append, List.length_singleton]
    exact ⟨_, rfl⟩

theorem Stands.verdicts_reverse (stands : Stands content before line behind) :
    ∃ told later, verdicts content.length content.reverse =
      told ++ verdict before.length line behind.length :: later ∧
        told.length = (pieces behind).length := by
  obtain ⟨later, judged⟩ := stands.verdicts_from_line
  have reversed := stands.reverse
  rcases stands.ends with rfl | ⟨rest, rfl⟩
  · rw [reversed]
    exact ⟨[], later, judged, rfl⟩
  · rw [List.reverse_cons, List.append_assoc, List.singleton_append] at reversed
    obtain ⟨told, found⟩ := verdicts_suffix content.length rest.reverse
      (line.reverse ++ before.reverse)
    refine ⟨told, later, by rw [reversed, ← found, judged], ?_⟩
    have count := congrArg List.length found
    rw [List.length_append, length_verdicts, length_verdicts, pieces_append_newline,
      List.length_append, pieces_reverse, List.length_reverse, List.length_map] at count
    rw [pieces_newline]
    omega

theorem call_of_stands (stands : Stands (counted content limit) before line behind) :
    (ofContent content limit).call (pieces behind).length =
      Item.answer (some (verdict before.length line behind.length)) := by
  obtain ⟨told, later, found, count⟩ := stands.verdicts_reverse
  have passed : (told.map fun item => Item.answer (some item)).length =
      (pieces behind).length := by
    rw [List.length_map, count]
  rw [call_eq_items (sound_ofContent content limit), items_ofContent_eq_verdicts, found,
    List.map_append, ← passed, List.getD_append_right _ _ _ _ (Nat.le_refl _), Nat.sub_self]
  rfl

theorem Stands.behind_newline (stands : Stands content before line behind) (front : Bytes) :
    Stands (front ++ newline :: content) (front ++ newline :: before) line behind :=
  { whole := by simp [stands.whole]
    plain := stands.plain
    present := stands.present
    starts := by
      rcases stands.starts with rfl | ⟨more, rfl⟩
      · exact .inr ⟨front, rfl⟩
      · exact .inr ⟨front ++ newline :: more, by simp⟩
    ends := stands.ends }

/-- The lines of a content are told apart by the number of lines behind them. -/
theorem exists_stands {index : Nat} (inside : index < (pieces content).length) :
    ∃ before line behind, Stands content before line behind ∧ (pieces behind).length = index := by
  induction measured : content.length using Nat.strongRecOn generalizing content with
  | _ length ih =>
      rcases splitLine_cases content with plain | ⟨first, rest, rfl, plain⟩
      · have present : content ≠ [] := by
          rintro rfl
          contradiction
        rw [pieces_of_not_mem plain present, List.length_singleton, Nat.lt_one_iff] at inside
        have stands : Stands content [] content [] :=
          { whole := (List.append_nil _).symm
            plain
            present
            starts := .inl rfl
            ends := .inl rfl }
        exact ⟨_, _, _, stands, inside.symm⟩
      · by_cases later : index < (pieces rest).length
        · have shorter : rest.length < length := by
            rw [← measured, List.length_append, List.length_cons]
            omega
          obtain ⟨before, line, behind, stands, count⟩ := ih _ shorter later rfl
          exact ⟨_, _, _, stands.behind_newline first, count⟩
        · have present : first ≠ [] := by
            rintro rfl
            exact later (by simpa [pieces_newline] using inside)
          rw [pieces_cons plain present, List.length_cons] at inside
          have stands : Stands (first ++ newline :: rest) [] first (newline :: rest) :=
            { whole := rfl
              plain
              present
              starts := .inl rfl
              ends := .inr ⟨rest, rfl⟩ }
          refine ⟨_, _, _, stands, ?_⟩
          rw [pieces_newline]
          omega

theorem call_after_lines {index : Nat}
    (passed : (pieces (counted content limit)).length ≤ index) :
    (ofContent content limit).call index = .ok none := by
  rw [call_eq_items (sound_ofContent content limit), items_ofContent_eq_verdicts]
  refine List.getD_eq_default _ _ ?_
  rw [List.length_map, length_verdicts, pieces_reverse, List.length_reverse, List.length_map]
  exact passed

/-- The call that comes to a line of a file tells it up to a length that goes beyond the longest
line by less than a chunk. How far it goes is a matter of where the line starts, counted from the end
of what counts of the file. A longer line is reported where a chunk begins. Every call comes to a
line until there is none. -/
theorem calls_judge_lines_by_place (content : Bytes) (limit : Option Nat) :
    (∀ before line behind, Stands (counted content limit) before line behind →
      (ofContent content limit).call (pieces behind).length =
        if line.length ≤ tolerated before.length (line.length + behind.length)
        then .ok (some line)
        else .error (Item.oversizedFailure (readSoFar line.length behind.length))) ∧
    ∀ index, (∃ before line behind, Stands (counted content limit) before line behind ∧
        (pieces behind).length = index) ∨
      (ofContent content limit).call index = .ok none := by
  constructor
  · intro before line behind stands
    rw [call_of_stands stands, verdict]
    split <;> rfl
  · intro index
    by_cases inside : index < (pieces (counted content limit)).length
    · exact .inl (exists_stands inside)
    · exact .inr (call_after_lines (Nat.le_of_not_lt inside))

def overlong : Bytes :=
  List.replicate (maxLineLength + 1) 0x7A

theorem length_overlong : overlong.length = maxLineLength + 1 :=
  List.length_replicate

theorem newline_not_mem_overlong : newline ∉ overlong := fun member =>
  absurd (List.eq_of_mem_replicate member) (by decide)

theorem overlong_ne_nil : overlong ≠ [] :=
  List.ne_nil_of_length_pos (by rw [length_overlong]; exact Nat.succ_pos _)

/-- The same line twice in a file. The last one is told, and the first one is reported. -/
theorem calls_judge_lines_by_place_twice :
    (ofContent (overlong ++ newline :: overlong) none).call 0 = .ok (some overlong) ∧
      (ofContent (overlong ++ newline :: overlong) none).call 1 =
        .error (Item.oversizedFailure (maxLineLength + 1)) := by
  have last : Stands (counted (overlong ++ newline :: overlong) none) (overlong ++ [newline])
      overlong [] :=
    { whole := by simp [counted]
      plain := newline_not_mem_overlong
      present := overlong_ne_nil
      starts := .inr ⟨overlong, rfl⟩
      ends := .inl rfl }
  have first : Stands (counted (overlong ++ newline :: overlong) none) [] overlong
      (newline :: overlong) :=
    { whole := by rw [List.nil_append]; rfl
      plain := newline_not_mem_overlong
      present := overlong_ne_nil
      starts := .inl rfl
      ends := .inr ⟨overlong, rfl⟩ }
  have within : overlong.length ≤
      tolerated (overlong ++ [newline]).length (overlong.length + 0) := by
    rw [List.length_append, length_overlong]
    decide
  have beyond : ¬(overlong.length ≤
      tolerated 0 (overlong.length + (newline :: overlong).length)) := by
    rw [List.length_cons, length_overlong]
    decide
  have read : readSoFar overlong.length (newline :: overlong).length = maxLineLength + 1 := by
    rw [List.length_cons, length_overlong]
    decide
  obtain ⟨judged, -⟩ := calls_judge_lines_by_place (overlong ++ newline :: overlong) none
  have told := judged _ _ _ last
  have reported := judged _ _ _ first
  rw [List.length_nil, if_pos within, pieces_nil, List.length_nil] at told
  rw [List.length_nil, if_neg beyond, read, pieces_newline,
    pieces_of_not_mem newline_not_mem_overlong overlong_ne_nil, List.length_singleton] at reported
  exact ⟨told, reported⟩

/-- Every line that is too long by less than a chunk is told behind a newline at the end of a file,
and reported where it is all of the file. -/
theorem told_and_reported (plain : newline ∉ line) (long : maxLineLength < line.length)
    (near : line.length < maxLineLength + chunkLength) :
    (ofContent (newline :: line) none).call 0 = .ok (some line) ∧
      (ofContent line none).call 0 = .error (Item.oversizedFailure line.length) := by
  have present : line ≠ [] := List.ne_nil_of_length_pos (Nat.zero_lt_of_lt long)
  have behind : Stands (counted (newline :: line) none) [newline] line [] :=
    { whole := (List.append_nil _).symm
      plain
      present
      starts := .inr ⟨[], rfl⟩
      ends := .inl rfl }
  have alone : Stands (counted line none) [] line [] :=
    { whole := (List.append_nil _).symm
      plain
      present
      starts := .inl rfl
      ends := .inl rfl }
  have told := call_of_stands behind
  have reported := call_of_stands alone
  have within : line.length ≤ tolerated [newline].length (line.length + 0) := by
    simp only [tolerated, List.length_singleton, Nat.one_ne_zero, ↓reduceIte, maxLineLength,
      chunkLength] at *
    omega
  have beyond : ¬(line.length ≤ tolerated 0 (line.length + 0)) := by
    simpa [tolerated] using long
  have read : readSoFar line.length 0 = line.length := by
    rw [readSoFar, Nat.zero_mod, Nat.sub_zero]
    exact Nat.min_eq_left (Nat.le_of_lt near)
  rw [verdict, List.length_nil, if_pos within] at told
  rw [verdict, List.length_nil, if_neg beyond, read] at reported
  exact ⟨told, reported⟩

/-- Whether a line is told is not a matter of the line. -/
theorem overlong_told_and_reported :
    maxLineLength < overlong.length ∧
      (ofContent (newline :: overlong) none).call 0 = .ok (some overlong) ∧
        (ofContent overlong none).call 0 =
          .error (Item.oversizedFailure overlong.length) := by
  have long : maxLineLength < overlong.length := by
    rw [length_overlong]
    exact Nat.lt_succ_self _
  have near : overlong.length < maxLineLength + chunkLength := by
    rw [length_overlong]
    exact Nat.add_lt_add_left (by decide) _
  exact ⟨long, told_and_reported newline_not_mem_overlong long near⟩

end Reader

end QueryJournal.Backward
