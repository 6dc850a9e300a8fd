import Mathlib
import QueryJournal.Text.Blank

namespace QueryJournal.Text

/-!
Blanks, ends and cases of texts. Taking characters from the end stops at the first one that stays,
and a text is folded once and for all. A start or an end that is known can be removed.
-/

variable {cls : Char → Bool} {left right text : List Char} {c : Char}

/-!
### Ends
-/

theorem dropEnd_concat (text : List Char) (c : Char) :
    dropEnd cls (text ++ [c]) = if cls c then dropEnd cls text else text ++ [c] :=
  List.rdropWhile_concat cls text c

theorem dropEnd_eq_self (stays : ∀ last ∈ text.getLast?, cls last = false) :
    dropEnd cls text = text := by
  refine List.rdropWhile_eq_self_iff.mpr fun some => ?_
  have last := stays (text.getLast some) (List.getLast?_eq_some_getLast some)
  simp [last]

/-- What stands before a character that stays is not touched. -/
theorem dropEnd_append (left : List Char) (stays : ∃ c ∈ right, cls c = false) :
    dropEnd cls (left ++ right) = left ++ dropEnd cls right := by
  induction right using List.reverseRecOn with
  | nil => simp at stays
  | append_singleton right c ih =>
      rw [← List.append_assoc, dropEnd_concat, dropEnd_concat]
      by_cases dropped : cls c = true
      · obtain ⟨other, member, kept⟩ := stays
        have earlier : ∃ c ∈ right, cls c = false := by
          rcases List.mem_append.mp member with before | last
          · exact ⟨other, before, kept⟩
          · rw [List.mem_singleton] at last
            rw [last, dropped] at kept
            contradiction
        rw [if_pos dropped, if_pos dropped, ih earlier]
      · rw [if_neg dropped, if_neg dropped, List.append_assoc]

theorem dropEnd_map (change : Char → Char) (blind : ∀ c, cls (change c) = cls c)
    (text : List Char) : dropEnd cls (text.map change) = (dropEnd cls text).map change := by
  have same : cls ∘ change = cls := funext blind
  rw [dropEnd, dropEnd, ← List.map_reverse, List.dropWhile_map, same, List.map_reverse]

/-- A text without blanks has none around it. -/
theorem trim_eq_self (clear : ∀ c ∈ text, isBlank c = false) : trim text = text := by
  have start : text.dropWhile isBlank = text := by
    cases text with
    | nil => rfl
    | cons c text => rw [List.dropWhile_cons_of_neg (by simp [clear c])]
  rw [trim, start, dropEnd_eq_self fun c member => clear c (List.mem_of_getLast? member)]

/-!
### Cases
-/

theorem toNat_toLower (c : Char) :
    c.toLower.toNat = if 0x41 ≤ c.toNat ∧ c.toNat ≤ 0x5A then c.toNat + 0x20 else c.toNat := by
  have code : c.toNat = c.val.toNat := rfl
  rw [code, Char.toLower]
  by_cases capital : c.val ≥ 'A'.val ∧ c.val ≤ 'Z'.val
  · have inside : 0x41 ≤ c.val.toNat ∧ c.val.toNat ≤ 0x5A := capital
    rw [dif_pos capital, if_pos inside]
    change (c.val + 0x20).toNat = _
    rw [UInt32.toNat_add]
    change (c.val.toNat + 0x20) % 2 ^ 32 = _
    omega
  · have outside : ¬ (0x41 ≤ c.val.toNat ∧ c.val.toNat ≤ 0x5A) := capital
    rw [dif_neg capital, if_neg outside]
    rfl

theorem toLower_eq_self (noCapital : ¬ (0x41 ≤ c.toNat ∧ c.toNat ≤ 0x5A)) : c.toLower = c := by
  rw [← Char.toNat_inj, toNat_toLower, if_neg noCapital]

theorem toLower_toLower (c : Char) : c.toLower.toLower = c.toLower := by
  apply toLower_eq_self
  rw [toNat_toLower]
  split <;> omega

theorem fold_eq_self (noCapital : ∀ c ∈ text, ¬ (0x41 ≤ c.toNat ∧ c.toNat ≤ 0x5A)) :
    fold text = text :=
  (List.map_congr_left fun c member => toLower_eq_self (noCapital c member)).trans
    (List.map_id text)

theorem fold_fold (text : List Char) : fold (fold text) = fold text := by
  rw [fold, fold, List.map_map]
  exact List.map_congr_left fun c _ => toLower_toLower c

/-!
### Texts with a known start or end
-/

theorem strip?_append (start rest : List Char) : strip? start (start ++ rest) = some rest := by
  induction start with
  | nil => rfl
  | cons c start ih => rw [List.cons_append, strip?, if_pos (beq_self_eq_true c), ih]

theorem strip?_eq_some {start text rest : List Char} (found : strip? start text = some rest) :
    text = start ++ rest := by
  induction start generalizing text with
  | nil => simpa [strip?] using found
  | cons s start ih =>
      cases text with
      | nil => simp [strip?] at found
      | cons t text =>
          rw [strip?] at found
          split at found
          · rename_i same
            rw [ih found, eq_of_beq same]
            rfl
          · contradiction

theorem stripEnd?_append (rest stop : List Char) : stripEnd? stop (rest ++ stop) = some rest := by
  rw [stripEnd?, List.reverse_append, strip?_append, Option.map_some, List.reverse_reverse]

end QueryJournal.Text
