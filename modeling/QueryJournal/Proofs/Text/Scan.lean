import QueryJournal.Proofs.Text.Blank
import QueryJournal.Text.Scan

namespace QueryJournal.Text

/-!
What the scans that others are made of read from a text that is known up to its rest.
-/

variable {α : Type} {piece : Scan α} {cls : Char → Bool} {text rest : List Char}

theorem many_of_none (stop : piece text = none) : many piece text = ([], text) := by
  rw [many, stop]

theorem many_of_some {first : α} (read : piece text = some (first, rest))
    (shorter : rest.length < text.length) :
    many piece text = (first :: (many piece rest).1, (many piece rest).2) := by
  rw [many, read]
  simp only [shorter, ↓reduceIte]

/-- A run ends in front of the first character outside the class. -/
theorem run_append {stop : Char} (inside : ∀ c ∈ text, cls c = true) (outside : cls stop = false)
    (rest : List Char) : run cls (text ++ stop :: rest) = (text, stop :: rest) := by
  rw [run, List.takeWhile_append_of_pos inside, List.dropWhile_append_of_pos inside,
    List.takeWhile_cons_of_neg (by simp [outside]), List.append_nil,
    List.dropWhile_cons_of_neg (by simp [outside])]

theorem skip?_cons (mark : Char) (rest : List Char) : skip? mark (mark :: rest) = some rest := by
  rw [skip?, if_pos (beq_self_eq_true mark)]

theorem skip?_of_ne {mark c : Char} (other : c ≠ mark) : skip? mark (c :: rest) = none := by
  rw [skip?, if_neg (by simpa using other)]

theorem exactly?_append {count : Nat} (size : text.length = count)
    (inside : ∀ c ∈ text, cls c = true) :
    exactly? count cls (text ++ rest) = some (text, rest) := by
  subst size
  simp only [exactly?, List.take_left, List.drop_left]
  rw [if_pos ⟨trivial, List.all_eq_true.mpr inside⟩]

/-- Pieces that are read from a written form one after another make up a text, and what comes after
the form starts with none. -/
def Spells (piece : Scan (List Char)) (form text rest : List Char) : Prop :=
  ∃ pieces, many piece (form ++ rest) = (pieces, rest) ∧ pieces.flatten = text

namespace Spells

variable {piece : Scan (List Char)} {start form part : List Char}

theorem nil (stop : piece rest = none) : Spells piece [] [] rest :=
  ⟨[], many_of_none stop, rfl⟩

theorem cons (read : piece (start ++ (form ++ rest)) = some (part, form ++ rest))
    (written : start ≠ []) (spells : Spells piece form text rest) :
    Spells piece (start ++ form) (part ++ text) rest := by
  obtain ⟨pieces, found, joined⟩ := spells
  have shorter : (form ++ rest).length < (start ++ (form ++ rest)).length := by
    have := List.length_pos_iff.mpr written
    simp only [List.length_append]
    omega
  refine ⟨part :: pieces, ?_, by rw [List.flatten_cons, joined]⟩
  rw [List.append_assoc, many_of_some read shorter, found]

theorem char {c : Char} (read : piece (start ++ (form ++ rest)) = some ([c], form ++ rest))
    (written : start ≠ []) (spells : Spells piece form text rest) :
    Spells piece (start ++ form) (c :: text) rest :=
  cons read written spells

end Spells

end QueryJournal.Text
