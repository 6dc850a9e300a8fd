import QueryJournal.Proofs.Text.Blank
import QueryJournal.Proofs.Text.Synchrony
import QueryJournal.Search.Criterion

namespace QueryJournal.Search

open QueryJournal.Text (fold toNat_toLower)
open QueryJournal.Utf8 (Bytes)

/-!
Searching for a term. The windows go over bytes, but those that agree with a term are characters
of the text, each the same as in the term or the same letter of ASCII in another case.
-/

variable {part text : List Char} {bytes window before after : Bytes} {c : Char}

theorem toNat_foldByte (byte : UInt8) :
    (foldByte byte).toNat =
      if 0x41 ≤ byte.toNat ∧ byte.toNat ≤ 0x5A then byte.toNat + 0x20 else byte.toNat := by
  rw [foldByte]
  by_cases capital : 0x41 ≤ byte ∧ byte ≤ 0x5A
  · have inside : 0x41 ≤ byte.toNat ∧ byte.toNat ≤ 0x5A := capital
    rw [if_pos capital, if_pos inside, UInt8.toNat_add]
    change (byte.toNat + 0x20) % 2 ^ 8 = _
    omega
  · have outside : ¬(0x41 ≤ byte.toNat ∧ byte.toNat ≤ 0x5A) := capital
    rw [if_neg capital, if_neg outside]

/-- Folding the bytes of a character folds it, since only ASCII has bytes that fold. -/
theorem encodeChar_toLower (c : Char) :
    Utf8.encodeChar c.toLower = (Utf8.encodeChar c).map foldByte := by
  by_cases ascii : c.toNat < 0x80
  · have small : c.toLower.toNat < 0x80 := by
      rw [toNat_toLower]
      split <;> omega
    rw [Utf8.encodeChar, Utf8.encodeChar]
    simp only [ascii, small, ↓reduceIte, List.map_cons, List.map_nil, List.cons.injEq, and_true]
    rw [← UInt8.toNat_inj, toNat_foldByte, UInt8.toNat_ofNat', UInt8.toNat_ofNat',
      toNat_toLower, Nat.mod_eq_of_lt (by omega : c.toNat < 2 ^ 8)]
    split <;> omega
  · have same : (Utf8.encodeChar c).map foldByte = Utf8.encodeChar c := by
      refine (List.map_congr_left fun byte member => ?_).trans (List.map_id _)
      rcases Utf8.encodeChar_ascii_or member with ⟨small, _⟩ | large
      · exact absurd small ascii
      · rw [id, ← UInt8.toNat_inj, toNat_foldByte, if_neg (by omega)]
    rw [same, Text.toLower_eq_self (by omega)]

theorem encode_fold (text : List Char) :
    Utf8.encode (fold text) = (Utf8.encode text).map foldByte := by
  rw [Utf8.encode, Utf8.encode, fold, List.flatMap_map, List.map_flatMap]
  exact List.flatMap_congr fun c _ => encodeChar_toLower c

/-- What agrees within bytes is one of the windows over them. -/
theorem matchesWithin_iff {sought : Bytes} (some : sought ≠ []) :
    matchesWithin sought bytes = true ↔
      ∃ before window after,
        bytes = before ++ window ++ after ∧ sameIgnoringCase window sought = true := by
  have nonempty {window : Bytes} (same : sameIgnoringCase window sought = true) :
      window.length = sought.length := by
    simpa using congrArg List.length (beq_iff_eq.mp same)
  induction bytes with
  | nil =>
      refine ⟨by simp [matchesWithin], fun ⟨before, window, after, empty, same⟩ => ?_⟩
      have none : window = [] := by simp_all
      have length := nonempty same
      rw [none, List.length_nil] at length
      exact absurd (List.eq_nil_of_length_eq_zero length.symm) some
  | cons byte bytes ih =>
      rw [matchesWithin, Bool.or_eq_true]
      refine (or_congr_right ih).trans ⟨?_, ?_⟩
      · rintro (here | ⟨before, window, after, rfl, same⟩)
        · exact ⟨[], _, _, (List.take_append_drop _ _).symm, here⟩
        · exact ⟨byte :: before, window, after, rfl, same⟩
      · rintro ⟨before, window, after, shape, same⟩
        cases before with
        | nil =>
            rw [List.nil_append] at shape
            rw [shape, ← nonempty same, List.take_left]
            exact .inl same
        | cons head before =>
            rw [List.cons_append, List.cons_append, List.cons.injEq] at shape
            exact .inr ⟨before, window, after, shape.2, same⟩

/-- The same character, or a letter of ASCII in two cases. -/
def Alike (left right : Char) : Prop :=
  left = right ∨ left.isAlpha = true ∧ right.isAlpha = true ∧ left.toLower = right.toLower

theorem isAlpha_iff :
    c.isAlpha = true ↔ 0x41 ≤ c.toNat ∧ c.toNat ≤ 0x5A ∨ 0x61 ≤ c.toNat ∧ c.toNat ≤ 0x7A := by
  rw [Char.isAlpha, Bool.or_eq_true, Char.isUpper, Char.isLower, decide_eq_true_iff,
    Bool.and_eq_true, decide_eq_true_iff, decide_eq_true_iff]
  exact Iff.rfl

theorem alike_of_toLower {left right : Char} (same : left.toLower = right.toLower) :
    Alike left right := by
  have codes := congrArg Char.toNat same
  rw [toNat_toLower, toNat_toLower] at codes
  rw [Alike, isAlpha_iff, isAlpha_iff, ← Char.toNat_inj]
  split at codes <;> split at codes
  · exact .inl (by omega)
  · exact .inr ⟨by omega, by omega, same⟩
  · exact .inr ⟨by omega, by omega, same⟩
  · exact .inl codes

theorem alike_of_fold {left right : List Char} (same : fold left = fold right) :
    List.Forall₂ Alike left right := by
  have heads : List.Forall₂ (fun left right => left.toLower = right.toLower) left right := by
    have folded : List.Forall₂ Eq (fold left) (fold right) := List.forall₂_eq_eq_eq ▸ same
    rwa [fold, fold, List.forall₂_map_left_iff, List.forall₂_map_right_iff] at folded
  exact heads.imp fun _ _ => alike_of_toLower

/-- Parts of a folded text are the folded parts of the text. -/
theorem fold_eq_append {front middle back : List Char} (split : fold text = front ++ middle ++ back) :
    ∃ front' middle' back', text = front' ++ middle' ++ back' ∧ fold front' = front ∧
      fold middle' = middle ∧ fold back' = back := by
  obtain ⟨start, back', rfl, starts, ends⟩ := List.map_eq_append_iff.mp split
  obtain ⟨front', middle', rfl, begins, goes⟩ := List.map_eq_append_iff.mp starts
  exact ⟨front', middle', back', rfl, begins, goes, ends⟩

/-- Bytes of a text that agree with those of a term are some of its characters. -/
theorem window_is_text (some : part ≠ []) (bytes : Utf8.encode text = before ++ window ++ after)
    (same : sameIgnoringCase window (Utf8.encode part) = true) :
    ∃ front middle back, text = front ++ middle ++ back ∧ Utf8.encode front = before ∧
      Utf8.encode middle = window ∧ Utf8.encode back = after ∧ fold middle = fold part := by
  have folded : window.map foldByte = Utf8.encode (fold part) :=
    (beq_iff_eq.mp same).trans (encode_fold part).symm
  have whole : Utf8.encode (fold text) =
      before.map foldByte ++ Utf8.encode (fold part) ++ after.map foldByte := by
    rw [encode_fold, bytes, List.map_append, List.map_append, folded]
  have some_folded : fold part ≠ [] := by simpa [fold] using some
  obtain ⟨_, _, split, front_bytes, _⟩ := Utf8.encode_window some_folded whole
  obtain ⟨front, middle, back, rfl, rfl, middle_folded, rfl⟩ := fold_eq_append split
  have front_length : (Utf8.encode front).length = before.length := by
    simpa [encode_fold] using congrArg List.length front_bytes
  have middle_length : (Utf8.encode middle).length = window.length := by
    simpa [encode_fold, ← middle_folded] using congrArg List.length folded.symm
  rw [Utf8.encode_append, Utf8.encode_append, List.append_assoc, List.append_assoc] at bytes
  obtain ⟨front_same, remains⟩ := List.append_inj bytes front_length
  obtain ⟨middle_same, back_same⟩ := List.append_inj remains middle_length
  exact ⟨front, middle, back, rfl, front_same, middle_same, back_same, middle_folded⟩

/-- Windows over bytes find exactly what characters in a row would. -/
theorem occursIgnoringCase_iff :
    occursIgnoringCase part text = true ↔ fold part <:+: fold text := by
  by_cases empty : part = []
  · subst empty
    exact iff_of_true rfl (List.nil_infix)
  have some : Utf8.encode part ≠ [] := by
    obtain ⟨first, tail, shape, _⟩ := Utf8.encode_starts empty
    simp [shape]
  rw [occursIgnoringCase, List.isEmpty_eq_false_iff.mpr empty, Bool.false_or,
    matchesWithin_iff some]
  constructor
  · rintro ⟨before, window, after, bytes, same⟩
    obtain ⟨front, middle, back, rfl, _, _, _, folded⟩ := window_is_text empty bytes same
    exact ⟨fold front, fold back, by rw [← folded]; simp [fold]⟩
  · rintro ⟨_, _, split⟩
    obtain ⟨front, middle, back, rfl, _, folded, _⟩ := fold_eq_append split.symm
    refine ⟨Utf8.encode front, Utf8.encode middle, Utf8.encode back, ?_, ?_⟩
    · rw [Utf8.encode_append, Utf8.encode_append]
    · rw [sameIgnoringCase, ← encode_fold, ← encode_fold, folded, beq_self_eq_true]

/-- What is found is no longer than where it is found, in characters and in bytes. -/
theorem occursIgnoringCase_length (found : occursIgnoringCase part text = true) :
    part.length ≤ text.length ∧ (Utf8.encode part).length ≤ (Utf8.encode text).length := by
  obtain ⟨front, back, split⟩ := occursIgnoringCase_iff.mp found
  have characters := congrArg List.length split
  have bytes := congrArg List.length (congrArg Utf8.encode split)
  simp only [Utf8.encode_append, encode_fold, List.length_append, List.length_map] at bytes
  simp only [fold, List.length_append, List.length_map] at characters
  omega

/-- A term is compared as text, its capitals and those of the host and the address taken for small
letters. Bytes of any text that agree with those of the term are whole characters, and only letters
of ASCII may differ from the term, in their case. -/
theorem term_is_folded_text (entry : Entry) (value : String) :
    let whole := (Criterion.term value true).admits entry
    let within := (Criterion.term value false).admits entry
    let term := fold value.toList
    let host := fold entry.host.toList
    let address := fold entry.client.chars
    (whole = true ↔ term = host ∨ term = address) ∧
      (within = true ↔ term <:+: host ∨ term <:+: address) ∧
      (value = "" → within = true) ∧
      ((∀ text ∈ searchedTexts entry, text.length < value.toList.length ∨
        (Utf8.encode text).length < (Utf8.ofString value).length) → within = false) ∧
      (whole = true → within = true) ∧
      ∀ (text : List Char) (before window after : Bytes), value ≠ "" →
        Utf8.encode text = before ++ window ++ after →
        sameIgnoringCase window (Utf8.ofString value) = true →
        ∃ front middle back, text = front ++ middle ++ back ∧ Utf8.encode front = before ∧
          Utf8.encode middle = window ∧ Utf8.encode back = after ∧
          List.Forall₂ Alike middle value.toList := by
  have whole : (Criterion.term value true).admits entry = true ↔
      fold value.toList = fold entry.host.toList ∨
        fold value.toList = fold entry.client.chars := by
    simp only [Criterion.admits, searchedTexts, Text.eqIgnoringCase, List.any_cons, List.any_nil,
      Bool.or_false, Bool.or_eq_true, beq_iff_eq]
    exact or_congr eq_comm eq_comm
  have within : (Criterion.term value false).admits entry = true ↔
      fold value.toList <:+: fold entry.host.toList ∨
        fold value.toList <:+: fold entry.client.chars := by
    simp only [Criterion.admits, searchedTexts, List.any_cons, List.any_nil, Bool.or_false,
      Bool.or_eq_true, occursIgnoringCase_iff]
  refine ⟨whole, within, ?_, fun longer => ?_, fun same => ?_, ?_⟩
  · rintro rfl
    exact within.mpr (.inl List.nil_infix)
  · rw [Criterion.admits, List.any_eq_false]
    intro text member found
    have bounds := occursIgnoringCase_length found
    have beyond := longer text member
    rw [Utf8.ofString] at beyond
    omega
  · refine within.mpr ((whole.mp same).imp ?_ ?_) <;> exact fun equal => equal ▸ List.infix_rfl
  · intro text before window after some bytes same
    have some_characters : value.toList ≠ [] := by simpa using some
    obtain ⟨front, middle, back, split, starts, is_window, ends, folded⟩ :=
      window_is_text some_characters bytes same
    exact ⟨front, middle, back, split, starts, is_window, ends, alike_of_fold folded⟩

/-- Letters of ASCII are found in both cases, others only as they are. -/
theorem term_is_folded_text_umlaut :
    let entry : Entry := { (default : Entry) with host := "Bücher.Example" }
    (Criterion.term "üCHER.e" false).admits entry = true ∧
      (Criterion.term "BÜCHER" false).admits entry = false ∧
      ∃ front middle back, entry.host.toList = front ++ middle ++ back ∧
        Utf8.encode front = [0x42] ∧ List.Forall₂ Alike middle "üCHER.e".toList := by
  intro entry
  obtain ⟨_, _, _, _, _, windows⟩ := term_is_folded_text entry "üCHER.e"
  refine ⟨by decide +kernel, by decide +kernel, ?_⟩
  obtain ⟨front, middle, back, split, starts, _, _, alike⟩ :=
    windows entry.host.toList [0x42] (Utf8.ofString "ücher.E") (Utf8.ofString "xample")
      (by decide) (by decide) (by decide)
  exact ⟨front, middle, back, split, starts, alike⟩

end QueryJournal.Search
