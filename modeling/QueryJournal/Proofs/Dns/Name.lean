import Mathlib
import QueryJournal.Dns.Name
import QueryJournal.Proofs.Text.Blank
import QueryJournal.Proofs.Text.Numeral

namespace QueryJournal.Dns

open QueryJournal.Text (dropEnd dropEnd_append dropEnd_concat dropEnd_eq_self fold isBlank trim)
open QueryJournal.Utf8 (Bytes)

/-!
The text of a name tells its labels, also after all points at its end were taken away. If the last
label ends with a point, that point is taken away with the one behind it, and what is left of it is
a backslash that escapes nothing. No other text of a name ends in that way.
-/

variable {name left right : Name} {first : Bool} {byte : UInt8} {label : Bytes}
  {labels : List Bytes} {c : Char}

/-- A byte with an ASCII capital in lower case. -/
def lower (byte : UInt8) : UInt8 :=
  if 0x41 ≤ byte ∧ byte ≤ 0x5A then byte + 0x20 else byte

theorem toNat_lower (byte : UInt8) :
    (lower byte).toNat =
      if 0x41 ≤ byte.toNat ∧ byte.toNat ≤ 0x5A then byte.toNat + 0x20 else byte.toNat := by
  rw [lower]
  by_cases capital : 0x41 ≤ byte ∧ byte ≤ 0x5A
  · have inside : 0x41 ≤ byte.toNat ∧ byte.toNat ≤ 0x5A := capital
    rw [if_pos capital, if_pos inside, UInt8.toNat_add]
    change (byte.toNat + 0x20) % 2 ^ 8 = _
    omega
  · have outside : ¬ (0x41 ≤ byte.toNat ∧ byte.toNat ≤ 0x5A) := capital
    rw [if_neg capital, if_neg outside]

theorem wireLength_eq (labels : List Bytes) :
    wireLength labels = (labels.map fun label => label.length + 1).sum + 1 := by
  induction labels with
  | nil => rfl
  | cons label labels ih =>
      change label.length + 1 + wireLength labels = _
      rw [ih, List.map_cons, List.sum_cons, ← Nat.add_assoc]

namespace Name

/-!
### Names up to the case of letters
-/

/-- Names with the same labels, if the case of ASCII letters does not count. -/
def SameIgnoringCase (left right : Name) : Prop :=
  left.labels.map (List.map lower) = right.labels.map (List.map lower)

instance (left right : Name) : Decidable (left.SameIgnoringCase right) :=
  inferInstanceAs (Decidable (_ = _))

/-- A name in lower case. -/
def lowered (name : Name) : Name where
  labels := name.labels.map (List.map lower)
  isLabel := by
    intro label member
    obtain ⟨original, found, rfl⟩ := List.mem_map.mp member
    rw [IsLabel, List.length_map]
    exact name.isLabel original found
  length_le := by
    have same : (name.labels.map (List.map lower)).map (fun label => label.length + 1) =
        name.labels.map fun label => label.length + 1 := by
      rw [List.map_map]
      exact List.map_congr_left fun label _ => by simp
    rw [wireLength_eq, same, ← wireLength_eq]
    exact name.length_le

theorem labels_lowered (name : Name) : name.lowered.labels = name.labels.map (List.map lower) :=
  rfl

theorem sameIgnoringCase_iff :
    left.SameIgnoringCase right ↔ left.lowered.labels = right.lowered.labels :=
  Iff.rfl

/-- A name below another one has labels in front of those of the other one. -/
def IsBelow (name other : Name) : Prop :=
  ∃ front ≠ [], name.lowered.labels = front ++ other.lowered.labels

theorem IsBelow.not_same (below : left.IsBelow right) : ¬ left.SameIgnoringCase right := by
  obtain ⟨front, some, longer⟩ := below
  rw [sameIgnoringCase_iff, longer]
  intro same
  exact some (List.append_left_eq_self.mp same)

theorem SameIgnoringCase.symm (same : left.SameIgnoringCase right) :
    right.SameIgnoringCase left :=
  Eq.symm same

theorem ne_nil_of_mem_labels (member : label ∈ name.labels) : label ≠ [] :=
  List.ne_nil_of_length_pos (name.isLabel label member).1

/-!
### The text of a byte
-/

theorem toNat_ofNat_toNat (byte : UInt8) : (Char.ofNat byte.toNat).toNat = byte.toNat := by
  have small := byte.toNat_lt
  rw [Char.toNat_ofNat, if_pos (.inl (by omega))]

theorem ofNat_toNat_ofNat (byte : UInt8) : UInt8.ofNat (Char.ofNat byte.toNat).toNat = byte := by
  rw [toNat_ofNat_toNat, UInt8.ofNat_toNat]

theorem isBare_iff : isBare first byte = true ↔
    (0x30 ≤ byte.toNat ∧ byte.toNat ≤ 0x39) ∨ (0x41 ≤ byte.toNat ∧ byte.toNat ≤ 0x5A) ∨
      (0x61 ≤ byte.toNat ∧ byte.toNat ≤ 0x7A) ∨ byte.toNat = 0x5F ∨
      (byte.toNat = 0x2D ∧ first = false) ∨ (byte.toNat = 0x2A ∧ first = true) := by
  simp [isBare, isAlphanumeric, UInt8.le_iff_toNat_le, ← UInt8.toNat_inj, or_assoc]

theorem exists_octal (byte : UInt8) :
    ∃ a b c, Numeral.padded 3 8 byte.toNat = [a, b, c] ∧
      (∀ digit ∈ [a, b, c], ∃ value < 8, digit = Numeral.digitChar value) ∧
      Numeral.value 8 [a, b, c] = byte.toNat := by
  have length : (Numeral.padded 3 8 byte.toNat).length = 3 :=
    Numeral.padded_length (by decide) (by decide) (Nat.lt_trans byte.toNat_lt (by decide))
  obtain ⟨a, b, c, text⟩ := List.length_eq_three.mp length
  refine ⟨a, b, c, text, ?_, ?_⟩
  · rw [← text]
    exact fun digit member => Numeral.mem_padded (by decide) member
  · rw [← text, Numeral.value_padded (by decide) (by decide)]

/-- A character of the text of a byte is the byte itself, the backslash or an octal digit. -/
theorem mem_byteText (member : c ∈ byteText first byte) :
    (c.toNat = byte.toNat ∧ 0x21 ≤ byte.toNat ∧ byte.toNat ≤ 0x7E) ∨ c = '\\' ∨
      (0x30 ≤ c.toNat ∧ c.toNat ≤ 0x37) := by
  rw [byteText] at member
  split at member
  · rename_i bare
    rw [isBare_iff] at bare
    rw [List.mem_singleton.mp member, toNat_ofNat_toNat]
    exact .inl ⟨rfl, by omega, by omega⟩
  · split at member
    · rename_i visible
      rcases List.mem_cons.mp member with mark | member
      · exact .inr (.inl mark)
      · rw [List.mem_singleton.mp member, toNat_ofNat_toNat]
        exact .inl ⟨rfl, visible⟩
    · obtain ⟨x, y, z, text, digits, _⟩ := exists_octal byte
      rw [text] at member
      rcases List.mem_cons.mp member with mark | member
      · exact .inr (.inl mark)
      · obtain ⟨digit, small, rfl⟩ := digits c member
        rw [Numeral.toNat_digitChar digit (by omega)]
        exact .inr (.inr ⟨by omega, by omega⟩)

theorem visible_of_mem_byteText (member : c ∈ byteText first byte) :
    0x21 ≤ c.toNat ∧ c.toNat ≤ 0x7E := by
  rcases mem_byteText member with ⟨same, visible⟩ | rfl | digit
  · rwa [same]
  · decide
  · omega

/-- The text of a byte starts with a character that is no point. -/
theorem exists_mem_byteText (first : Bool) (byte : UInt8) :
    ∃ c ∈ byteText first byte, (c == '.') = false := by
  rw [byteText]
  split
  · rename_i bare
    refine ⟨_, List.mem_singleton_self _, beq_false_of_ne fun same => ?_⟩
    rw [isBare_iff, ← toNat_ofNat_toNat, same] at bare
    revert bare
    cases first <;> decide
  · split
    all_goals exact ⟨'\\', List.mem_cons_self, by decide⟩

theorem byteText_lower (first : Bool) (byte : UInt8) :
    byteText first (lower byte) = fold (byteText first byte) := by
  have code := toNat_lower byte
  -- Letters stand for themselves, so nothing that is escaped has a case.
  by_cases bare : isBare first byte = true
  · have bareLower : isBare first (lower byte) = true := by
      rw [isBare_iff] at bare ⊢
      split at code <;> grind
    have letter : (Char.ofNat byte.toNat).toLower = Char.ofNat (lower byte).toNat := by
      rw [← Char.toNat_inj, Text.toNat_toLower, toNat_ofNat_toNat, toNat_ofNat_toNat, code]
    rw [byteText, byteText, if_pos bare, if_pos bareLower, ← letter]
    rfl
  · have noCapital : ¬ (0x41 ≤ byte.toNat ∧ byte.toNat ≤ 0x5A) := by
      rw [isBare_iff] at bare
      omega
    rw [if_neg noCapital] at code
    have same : lower byte = byte := UInt8.toNat_inj.mp code
    rw [same, Text.fold_eq_self]
    intro c member
    rcases mem_byteText member with ⟨same, _⟩ | rfl | digit
    · rwa [same]
    · decide
    · omega

/-!
### The text of a label and of a name
-/

theorem labelText_lower (label : Bytes) : labelText (label.map lower) = fold (labelText label) := by
  cases label with
  | nil => rfl
  | cons first rest =>
      have later : (rest.map lower).flatMap (byteText false) =
          fold (rest.flatMap (byteText false)) := by
        rw [fold, List.map_flatMap, List.flatMap_map]
        exact List.flatMap_congr fun byte _ => byteText_lower false byte
      rw [List.map_cons, labelText, labelText, byteText_lower, later, fold, fold, fold,
        List.map_append]

theorem text_lowered (name : Name) : name.lowered.text = fold name.text := by
  rw [text, text, labels_lowered]
  cases name.labels with
  | nil => rfl
  | cons label rest =>
      simp only [List.map_cons, List.isEmpty_cons, Bool.false_eq_true, ↓reduceIte]
      rw [← List.map_cons, List.flatMap_map, fold, List.map_flatMap]
      refine List.flatMap_congr fun label _ => ?_
      rw [labelText_lower, fold, List.map_append]
      rfl

theorem visible_of_mem_labelText (member : c ∈ labelText label) :
    0x21 ≤ c.toNat ∧ c.toNat ≤ 0x7E := by
  cases label with
  | nil => contradiction
  | cons first rest =>
      rcases List.mem_append.mp member with start | later
      · exact visible_of_mem_byteText start
      · obtain ⟨byte, _, member⟩ := List.mem_flatMap.mp later
        exact visible_of_mem_byteText member

theorem visible_of_mem_text (member : c ∈ name.text) : 0x21 ≤ c.toNat ∧ c.toNat ≤ 0x7E := by
  rw [text] at member
  split at member
  · rw [List.mem_singleton.mp member]
    decide
  · obtain ⟨label, _, member⟩ := List.mem_flatMap.mp member
    rcases List.mem_append.mp member with inside | point
    · exact visible_of_mem_labelText inside
    · rw [List.mem_singleton.mp point]
      decide

/-!
### Reading labels
-/

/-- The labels that stand in a text from which the points at its end were taken away. A backslash
at the end has lost a point. -/
def readLabels : List Char → List Bytes
  | [] => [[]]
  | c :: rest =>
    if c = '.' then [] :: readLabels rest
    else if c = '\\' then
      match rest with
      | [] => [[0x2E]]
      | a :: rest =>
        if Numeral.isDigit a then
          match rest with
          | b :: c :: rest =>
            (readLabels rest).modifyHead (UInt8.ofNat (Numeral.value 8 [a, b, c]) :: ·)
          | _ => []
        else (readLabels rest).modifyHead (UInt8.ofNat a.toNat :: ·)
    else (readLabels rest).modifyHead (UInt8.ofNat c.toNat :: ·)

theorem readLabels_point (rest : List Char) : readLabels ('.' :: rest) = [] :: readLabels rest := by
  rw [readLabels.eq_def]
  simp only [↓reduceIte]

theorem readLabels_plain (rest : List Char) (point : c ≠ '.') (mark : c ≠ '\\') :
    readLabels (c :: rest) = (readLabels rest).modifyHead (UInt8.ofNat c.toNat :: ·) := by
  rw [readLabels.eq_def]
  simp only [if_neg point, if_neg mark]

theorem readLabels_escaped (rest : List Char) (plain : Numeral.isDigit c = false) :
    readLabels ('\\' :: c :: rest) = (readLabels rest).modifyHead (UInt8.ofNat c.toNat :: ·) := by
  rw [readLabels.eq_def]
  simp [plain]

theorem readLabels_octal (rest : List Char) {a : Char} (b c : Char)
    (digit : Numeral.isDigit a = true) :
    readLabels ('\\' :: a :: b :: c :: rest) =
      (readLabels rest).modifyHead (UInt8.ofNat (Numeral.value 8 [a, b, c]) :: ·) := by
  rw [readLabels.eq_def]
  simp [digit]

theorem readLabels_byteText (first : Bool) (byte : UInt8) (rest : List Char) :
    readLabels (byteText first byte ++ rest) = (readLabels rest).modifyHead (byte :: ·) := by
  rw [byteText]
  split
  · rename_i bare
    have plain : Char.ofNat byte.toNat ≠ '.' ∧ Char.ofNat byte.toNat ≠ '\\' := by
      rw [isBare_iff] at bare
      rw [Ne, Ne, ← Char.toNat_inj, ← Char.toNat_inj, toNat_ofNat_toNat]
      change byte.toNat ≠ 0x2E ∧ byte.toNat ≠ 0x5C
      omega
    rw [List.singleton_append, readLabels_plain rest plain.1 plain.2, ofNat_toNat_ofNat]
  · rename_i escaped
    split
    · have sign : Numeral.isDigit (Char.ofNat byte.toNat) = false := by
        rw [isBare_iff] at escaped
        rw [Numeral.isDigit, Bool.and_eq_false_iff, decide_eq_false_iff_not,
          decide_eq_false_iff_not]
        change ¬ 0x30 ≤ (Char.ofNat byte.toNat).toNat ∨ ¬ (Char.ofNat byte.toNat).toNat ≤ 0x39
        rw [toNat_ofNat_toNat]
        omega
      rw [List.cons_append, List.singleton_append, readLabels_escaped rest sign,
        ofNat_toNat_ofNat]
    · obtain ⟨a, b, c, text, digits, value⟩ := exists_octal byte
      have digit : Numeral.isDigit a = true := by
        obtain ⟨digit, small, rfl⟩ := digits a List.mem_cons_self
        exact Numeral.isDigit_digitChar digit (by omega)
      -- No character stands as a digit behind a backslash, because digits are bare.
      rw [text]
      change readLabels ('\\' :: a :: b :: c :: rest) = _
      rw [readLabels_octal rest b c digit, value, UInt8.ofNat_toNat]

/-- The last byte of a label is read also if it has lost its point. -/
theorem readLabels_last (first : Bool) (byte : UInt8) :
    readLabels (dropEnd (· == '.') (byteText first byte ++ ['.'])) = [[byte]] := by
  rw [dropEnd_concat, if_pos (by rfl)]
  -- An escaped point is taken away as well and only its backslash is left.
  by_cases point : byte = 0x2E
  · subst point
    cases first <;> decide
  · have stays : ∀ last ∈ (byteText first byte).getLast?, (last == '.') = false := by
      intro last member
      refine beq_false_of_ne fun same => ?_
      rw [same] at member
      rcases mem_byteText (List.mem_of_getLast? member) with ⟨code, _⟩ | mark | digit
      · exact point (UInt8.toNat_inj.mp code.symm)
      · exact absurd mark (by decide)
      · exact absurd digit (by decide)
    rw [dropEnd_eq_self stays, ← List.append_nil (byteText first byte), readLabels_byteText]
    rfl

theorem readLabels_lastLabel (first : Bool) (byte : UInt8) (rest : Bytes) :
    readLabels (dropEnd (· == '.')
      (byteText first byte ++ rest.flatMap (byteText false) ++ ['.'])) = [byte :: rest] := by
  induction rest generalizing first byte with
  | nil =>
      rw [List.flatMap_nil, List.append_nil]
      exact readLabels_last first byte
  | cons next rest ih =>
      obtain ⟨c, member, plain⟩ := exists_mem_byteText false next
      have stays : ∃ c ∈ byteText false next ++ rest.flatMap (byteText false) ++ ['.'],
          (c == '.') = false := ⟨c, by simp [member], plain⟩
      rw [List.flatMap_cons, List.append_assoc, dropEnd_append _ stays, readLabels_byteText,
        ih false next]
      rfl

theorem readLabels_bytes (bytes : Bytes) (rest : List Char) :
    readLabels (bytes.flatMap (byteText false) ++ '.' :: rest) = bytes :: readLabels rest := by
  induction bytes with
  | nil => exact readLabels_point rest
  | cons byte bytes ih =>
      rw [List.flatMap_cons, List.append_assoc, readLabels_byteText, ih]
      rfl

theorem readLabels_labelText (label : Bytes) (rest : List Char) :
    readLabels (labelText label ++ '.' :: rest) = label :: readLabels rest := by
  cases label with
  | nil => exact readLabels_point rest
  | cons byte bytes =>
      rw [labelText, List.append_assoc, readLabels_byteText, readLabels_bytes]
      rfl

theorem exists_mem_labelText (some : label ≠ []) :
    ∃ c ∈ labelText label, (c == '.') = false := by
  obtain ⟨byte, bytes, rfl⟩ := List.exists_cons_of_ne_nil some
  obtain ⟨c, member, plain⟩ := exists_mem_byteText true byte
  exact ⟨c, List.mem_append_left _ member, plain⟩

/-- Reading undoes writing, after the points at the end were taken away. -/
theorem readLabels_dropEnd (some : labels ≠ []) (full : ∀ label ∈ labels, label ≠ []) :
    readLabels (dropEnd (· == '.') (labels.flatMap fun label => labelText label ++ ['.'])) =
      labels := by
  induction labels with
  | nil => contradiction
  | cons label labels ih =>
      obtain ⟨byte, bytes, rfl⟩ := List.exists_cons_of_ne_nil (full label List.mem_cons_self)
      cases labels with
      | nil =>
          rw [List.flatMap_cons, List.flatMap_nil, List.append_nil, labelText]
          exact readLabels_lastLabel true byte bytes
      | cons next labels =>
          have later := ih (List.cons_ne_nil _ _) fun label member =>
            full label (List.mem_cons_of_mem _ member)
          obtain ⟨c, member, plain⟩ := exists_mem_labelText (full next (by simp))
          have stays : ∃ c ∈ (next :: labels).flatMap fun label => labelText label ++ ['.'],
              (c == '.') = false :=
            ⟨c, List.mem_flatMap.mpr ⟨next, by simp, List.mem_append_left _ member⟩, plain⟩
          rw [List.flatMap_cons, dropEnd_append _ stays, List.append_assoc, List.singleton_append,
            readLabels_labelText, later]

/-- The labels of a name whose text without the points at its end is given. -/
def labelsOfStem (stem : List Char) : List Bytes :=
  if stem.isEmpty then [] else readLabels stem

theorem labelsOfStem_text (name : Name) :
    labelsOfStem (dropEnd (· == '.') name.text) = name.labels := by
  have full : ∀ label ∈ name.labels, label ≠ [] := fun _ => ne_nil_of_mem_labels
  rw [text]
  cases labels : name.labels with
  | nil => rfl
  | cons label rest =>
      rw [labels] at full
      have read := readLabels_dropEnd (List.cons_ne_nil label rest) full
      rw [List.isEmpty_cons, if_neg (by decide), labelsOfStem]
      split
      · rename_i none
        rw [List.isEmpty_iff.mp none] at read
        have lost : label = [] := (List.cons.inj read).1.symm
        exact absurd lost (full label List.mem_cons_self)
      · exact read

theorem dropEnd_text_inj :
    dropEnd (· == '.') left.text = dropEnd (· == '.') right.text ↔ left.labels = right.labels := by
  refine ⟨fun same => ?_, fun same => by rw [text, text, same]⟩
  rw [← labelsOfStem_text left, same, labelsOfStem_text]

end Name

end QueryJournal.Dns
