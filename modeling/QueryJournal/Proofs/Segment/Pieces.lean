import QueryJournal.Segment.Backward

namespace QueryJournal.Backward

open QueryJournal.Utf8 (Bytes)

/-!
The lines of a content: its parts between newlines that are not empty. Read from the end they are
the same lines, reversed and in reverse order.
-/

variable {content left right line window : Bytes}

def pieces (content : Bytes) : List Bytes :=
  (content.splitOn newline).filter fun piece => !piece.isEmpty

@[simp] theorem pieces_nil : pieces [] = [] :=
  rfl

theorem pieces_append_newline (left right : Bytes) :
    pieces (left ++ newline :: right) = pieces left ++ pieces right := by
  rw [pieces, List.splitOn_append_cons_self, List.filter_append]
  rfl

theorem pieces_of_not_mem (plain : newline ∉ line) (present : line ≠ []) :
    pieces line = [line] := by
  rw [pieces, List.splitOn_eq_singleton plain]
  simpa using present

theorem pieces_cons (plain : newline ∉ line) (present : line ≠ []) (rest : Bytes) :
    pieces (line ++ newline :: rest) = line :: pieces rest := by
  rw [pieces_append_newline, pieces_of_not_mem plain present, List.singleton_append]

theorem pieces_newline (rest : Bytes) : pieces (newline :: rest) = pieces rest :=
  pieces_append_newline [] rest

theorem splitLine_append {rest : Bytes} (split : Reader.splitLine window = (line, some rest)) :
    window = line ++ newline :: rest ∧ newline ∉ line := by
  have joined := List.takeWhile_append_dropWhile (p := (· != newline)) (l := window)
  have kept := List.all_takeWhile (p := (· != newline)) (l := window)
  unfold Reader.splitLine at split
  cases found : window.dropWhile (· != newline) with
  | nil => simp [found] at split
  | cons first after =>
      simp only [found, Prod.mk.injEq, Option.some.injEq] at split
      obtain ⟨rfl, rfl⟩ := split
      have head := List.head?_dropWhile_not (· != newline) window
      rw [found] at joined head
      have mark : first = newline := by simpa using head
      rw [mark] at joined
      exact ⟨joined.symm, fun member => by simpa using List.all_eq_true.mp kept _ member⟩

theorem not_mem_of_splitLine (split : Reader.splitLine window = (line, none)) :
    newline ∉ line := by
  have kept := List.all_takeWhile (p := (· != newline)) (l := window)
  have part : window.takeWhile (· != newline) = line := congrArg Prod.fst split
  rw [part] at kept
  exact fun member => by simpa using List.all_eq_true.mp kept _ member

/-- A content without its first line, which may be an empty one, and what is left after it. -/
theorem splitLine_cases (content : Bytes) :
    (newline ∉ content) ∨
      ∃ line rest, content = line ++ newline :: rest ∧ newline ∉ line := by
  cases split : Reader.splitLine content with
  | mk line rest =>
      cases rest with
      | none => exact .inl (Reader.splitLine_none split ▸ not_mem_of_splitLine split)
      | some rest => exact .inr ⟨line, rest, splitLine_append split⟩

theorem pieces_reverse (content : Bytes) :
    pieces content.reverse = ((pieces content).map List.reverse).reverse := by
  induction measured : content.length using Nat.strongRecOn generalizing content with
  | _ length ih =>
      have whole : ∀ line : Bytes, newline ∉ line →
          pieces line.reverse = ((pieces line).map List.reverse).reverse := by
        intro line plain
        by_cases present : line = []
        · rw [present]
          rfl
        · rw [pieces_of_not_mem plain present,
            pieces_of_not_mem (by simpa using plain) (by simpa using present)]
          rfl
      rcases splitLine_cases content with plain | ⟨line, rest, rfl, plain⟩
      · exact whole content plain
      · have shorter : rest.length < length := by
          rw [← measured, List.length_append, List.length_cons]
          omega
        rw [List.reverse_append, List.reverse_cons, List.append_assoc, List.singleton_append,
          pieces_append_newline, pieces_append_newline, ih _ shorter rest rfl, whole line plain,
          List.map_append, List.reverse_append]

end QueryJournal.Backward
