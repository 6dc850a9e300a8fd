import Mathlib
import QueryJournal.Host.Basic
import QueryJournal.Proofs.Dns.Name
import QueryJournal.Proofs.Text.Utf8

namespace QueryJournal

/-!
Hosts in normal form and the names that they stand for. The normal form of the text of a name tells
the name up to the case of its letters; a text that passes the check is its own normal form if it is
in lower case, and the text of a name once a point is put behind it.
-/

/-!
### Parts between marks
-/

namespace Text

variable {mark : Char} {part text : List Char}

theorem not_mem_of_mem_splitOn (member : part ∈ text.splitOn mark) : mark ∉ part := by
  induction text generalizing part with
  | nil =>
      rw [List.splitOn_nil, List.mem_singleton] at member
      simp [member]
  | cons c text ih =>
      rw [List.splitOn_cons_eq_if_modifyHead] at member
      split at member
      · rcases List.mem_cons.mp member with rfl | later
        · exact List.not_mem_nil
        · exact ih later
      · rename_i other
        obtain ⟨first, parts, split⟩ := List.exists_cons_of_ne_nil (List.splitOn_ne_nil mark text)
        rw [split, List.modifyHead_cons] at member
        rcases List.mem_cons.mp member with rfl | later
        · rw [List.mem_cons, not_or]
          exact ⟨fun same => other (by simp [same]), ih (by simp [split])⟩
        · exact ih (by simp [split, later])

/-- The parts with a mark behind each of them are the text with a mark behind it. -/
theorem flatMap_splitOn (mark : Char) (text : List Char) :
    (text.splitOn mark).flatMap (· ++ [mark]) = text ++ [mark] := by
  induction text with
  | nil => rfl
  | cons c text ih =>
      rw [List.splitOn_cons_eq_if_modifyHead]
      split
      · rename_i same
        rw [List.flatMap_cons, ih, eq_of_beq same]
        rfl
      · obtain ⟨first, parts, split⟩ := List.exists_cons_of_ne_nil (List.splitOn_ne_nil mark text)
        rw [split, List.flatMap_cons] at ih
        rw [split, List.modifyHead_cons, List.flatMap_cons, List.cons_append, List.cons_append, ih]
        rfl

theorem sum_length_splitOn (mark : Char) (text : List Char) :
    ((text.splitOn mark).map fun part => part.length + 1).sum = text.length + 1 := by
  have lengths := congrArg List.length (flatMap_splitOn mark text)
  rw [List.length_flatMap, List.length_append] at lengths
  simpa using lengths

theorem mem_of_mem_splitOn {c : Char} (member : part ∈ text.splitOn mark) (inside : c ∈ part) :
    c ∈ text := by
  have found : c ∈ text ++ [mark] := by
    rw [← flatMap_splitOn mark text]
    exact List.mem_flatMap.mpr ⟨part, member, List.mem_append_left _ inside⟩
  rcases List.mem_append.mp found with within | last
  · exact within
  · rw [List.mem_singleton] at last
    exact absurd (last ▸ inside) (not_mem_of_mem_splitOn member)

end Text

namespace Host

open QueryJournal.Text (dropEnd fold isBlank trim)

variable {host label : List Char} {labels : List (List Char)} {c : Char} {fault : Fault}
  {left right : Dns.Name} {length : Nat}

/-!
### The normal form of names
-/

theorem isBlank_of_visible (visible : 0x21 ≤ c.toNat ∧ c.toNat ≤ 0x7E) : isBlank c = false := by
  simp only [isBlank, Bool.or_eq_false_iff, Bool.and_eq_false_iff, decide_eq_false_iff_not,
    beq_eq_false_iff_ne]
  omega

theorem isPoint_toLower (c : Char) : (c.toLower == '.') = (c == '.') := by
  have code := Text.toNat_toLower c
  rw [Bool.eq_iff_iff, beq_iff_eq, beq_iff_eq, ← Char.toNat_inj, ← Char.toNat_inj, code]
  change _ = 0x2E ↔ c.toNat = 0x2E
  split <;> omega

/-- Nothing but the points at the end of the text of a name is taken away. -/
theorem normal_text (name : Dns.Name) :
    normal name.text = dropEnd (· == '.') name.lowered.text := by
  have clear : ∀ c ∈ name.text, isBlank c = false := fun c member =>
    isBlank_of_visible (Dns.Name.visible_of_mem_text member)
  rw [normal, Text.trim_eq_self clear, Dns.Name.text_lowered]
  exact (Text.dropEnd_map Char.toLower isPoint_toLower name.text).symm

/-- Two names have one normal form exactly if they differ in the case of letters at most. -/
theorem normal_text_inj : normal left.text = normal right.text ↔ left.SameIgnoringCase right := by
  rw [normal_text, normal_text, Dns.Name.dropEnd_text_inj]
  rfl

/-!
### What the check accepts
-/

theorem isHostCharacter_iff : isHostCharacter c = true ↔
    (0x30 ≤ c.toNat ∧ c.toNat ≤ 0x39) ∨ (0x41 ≤ c.toNat ∧ c.toNat ≤ 0x5A) ∨
      (0x61 ≤ c.toNat ∧ c.toNat ≤ 0x7A) ∨ c.toNat = 0x2D ∨ c.toNat = 0x5F ∨ c.toNat = 0x2E := by
  have mark : ∀ other : Char, c = other ↔ c.toNat = other.toNat := fun _ => Char.toNat_inj.symm
  have code : c.val.toNat = c.toNat := rfl
  simp only [isHostCharacter, Char.isAlphanum, Char.isAlpha, Char.isUpper, Char.isLower,
    Char.isDigit, Bool.or_eq_true, Bool.and_eq_true, decide_eq_true_eq, beq_iff_eq, mark,
    ge_iff_le, UInt32.le_iff_toNat_le, code]
  change ((((0x41 ≤ c.toNat ∧ c.toNat ≤ 0x5A ∨ 0x61 ≤ c.toNat ∧ c.toNat ≤ 0x7A) ∨
    0x30 ≤ c.toNat ∧ c.toNat ≤ 0x39) ∨ c.toNat = 0x2D) ∨ c.toNat = 0x5F) ∨ c.toNat = 0x2E ↔ _
  omega

/-- A host name: labels of letters, digits, hyphens and underscores between points, each of one to
63 characters of which the first is no hyphen, with at most 253 characters in all. -/
structure IsName (host : List Char) : Prop where
  characters : ∀ c ∈ host, isHostCharacter c = true
  labels : ∀ label ∈ host.splitOn '.', label ≠ [] ∧ label.length ≤ 63 ∧ label.head? ≠ some '-'
  length : host.length ≤ 253

theorem checkLabels_eq_ok_iff (short : length ≤ maxLength) :
    checkLabels length labels = .ok () ↔
      (∀ label ∈ labels, label.length ≤ maxLabelLength ∧ label.head? ≠ some '-') ∧
        length + (labels.map fun label => label.length + 1).sum ≤ maxLength := by
  induction labels generalizing length with
  | nil => simp [checkLabels, short]
  | cons label labels ih =>
      rw [checkLabels, List.forall_mem_cons, List.map_cons, List.sum_cons]
      split
      · rename_i long
        simp [Nat.not_le_of_lt long]
      · rename_i fits
        split
        · rename_i hyphen
          simp [hyphen]
        · rename_i hyphen
          split
          · rename_i total
            exact iff_of_false nofun fun sound => by omega
          · rename_i total
            have sound : label.length ≤ maxLabelLength ∧ label.head? ≠ some '-' :=
              ⟨Nat.le_of_not_lt fits, hyphen⟩
            rw [ih (Nat.le_of_not_lt total), and_iff_right sound, ← Nat.add_assoc,
              ← Nat.add_assoc]

theorem check_eq_ok_iff (host : List Char) : check host = .ok () ↔ IsName host := by
  have sum := Text.sum_length_splitOn '.' host
  rw [check]
  split
  · rename_i c found
    have bad := List.find?_some found
    refine iff_of_false nofun fun proper => ?_
    rw [proper.characters c (List.mem_of_find?_eq_some found)] at bad
    contradiction
  · rename_i clear
    have characters : ∀ c ∈ host, isHostCharacter c = true := by simpa using clear
    dsimp only
    split
    · rename_i empty
      obtain ⟨label, member, none⟩ := List.any_eq_true.mp empty
      exact iff_of_false nofun fun proper =>
        (proper.labels label member).1 (List.isEmpty_iff.mp none)
    · rename_i full
      have some : ∀ label ∈ host.splitOn '.', label ≠ [] := fun label member none =>
        full (List.any_eq_true.mpr ⟨label, member, by rw [none, List.isEmpty_nil]⟩)
      rw [checkLabels_eq_ok_iff (by decide), sum]
      constructor
      · rintro ⟨labels, total⟩
        exact
          { characters
            labels := fun label member => ⟨some label member, labels label member⟩
            length := by rw [maxLength] at total; omega }
      · intro proper
        have total := proper.length
        exact ⟨fun label member => (proper.labels label member).2, by rw [maxLength]; omega⟩

instance (host : List Char) : Decidable (IsName host) :=
  decidable_of_iff (check host = .ok ()) (check_eq_ok_iff host)

/-!
### What the check says
-/

/-- What a fault says of a host. -/
def Fault.Holds (host : List Char) : Fault → Prop
  | .character c => c ∈ host ∧ isHostCharacter c = false
  | .emptyLabel => [] ∈ host.splitOn '.'
  | .longLabel length => ∃ label ∈ host.splitOn '.', label.length = length ∧ 63 < length
  | .leadingHyphen label => label ∈ host.splitOn '.' ∧ label.head? = some '-'
  | .longName length => 255 < length ∧ length ≤ host.length + 2

theorem fault_of_checkLabels (failed : checkLabels length labels = .error fault) :
    (∃ label ∈ labels, 63 < label.length ∧ fault = .longLabel label.length) ∨
      (∃ label ∈ labels, label.head? = some '-' ∧ fault = .leadingHyphen label) ∨
        ∃ total, 255 < total ∧ total ≤ length + (labels.map fun label => label.length + 1).sum ∧
          fault = .longName total := by
  induction labels generalizing length with
  | nil => cases failed
  | cons label labels ih =>
      rw [checkLabels] at failed
      split at failed
      · rename_i long
        cases failed
        exact .inl ⟨label, List.mem_cons_self, long, rfl⟩
      · split at failed
        · rename_i hyphen
          cases failed
          exact .inr (.inl ⟨label, List.mem_cons_self, hyphen, rfl⟩)
        · rw [List.map_cons, List.sum_cons]
          split at failed
          · rename_i total
            cases failed
            exact .inr (.inr ⟨_, total, by omega, rfl⟩)
          · rcases ih failed with ⟨other, member, rest⟩ | ⟨other, member, rest⟩ |
              ⟨total, above, below, rest⟩
            · exact .inl ⟨other, List.mem_cons_of_mem _ member, rest⟩
            · exact .inr (.inl ⟨other, List.mem_cons_of_mem _ member, rest⟩)
            · exact .inr (.inr ⟨total, above, by omega, rest⟩)

/-- What the check says of a host is so. -/
theorem Fault.holds_of_check (failed : check host = .error fault) : fault.Holds host := by
  have sum := Text.sum_length_splitOn '.' host
  rw [check] at failed
  split at failed
  · rename_i c found
    cases failed
    exact ⟨List.mem_of_find?_eq_some found, by simpa using List.find?_some found⟩
  · dsimp only at failed
    split at failed
    · rename_i empty
      obtain ⟨label, member, none⟩ := List.any_eq_true.mp empty
      cases failed
      rw [List.isEmpty_iff.mp none] at member
      exact member
    · rcases fault_of_checkLabels failed with ⟨label, member, long, rfl⟩ |
        ⟨label, member, hyphen, rfl⟩ | ⟨total, above, below, rfl⟩
      · exact ⟨label, member, rfl, long⟩
      · exact ⟨member, hyphen⟩
      · exact ⟨above, by omega⟩

/-!
### Accepted hosts
-/

theorem IsName.ne_nil (proper : IsName host) : host ≠ [] := by
  rintro rfl
  exact (proper.labels [] (by rw [List.splitOn_nil]; exact List.mem_singleton_self _)).1 rfl

/-- The last character is no point, because a label would be empty. -/
theorem IsName.last_ne_point (proper : IsName host) :
    ∀ last ∈ host.getLast?, (last == '.') = false := by
  intro last member
  refine beq_false_of_ne fun point => ?_
  rw [point] at member
  obtain ⟨start, rfl⟩ := List.getLast?_eq_some_iff.mp member
  have empty : [] ∈ (start ++ ['.']).splitOn '.' := by
    rw [List.splitOn_append_cons_self, List.splitOn_nil]
    exact List.mem_append_right _ (List.mem_singleton_self _)
  exact (proper.labels [] empty).1 rfl

theorem IsName.visible (proper : IsName host) : ∀ c ∈ host, isBlank c = false := by
  intro c member
  have character := isHostCharacter_iff.mp (proper.characters c member)
  exact isBlank_of_visible (by omega)

/-- Nothing is taken away from a host name, and of a name with points behind it only those. -/
theorem normal_of_isName (proper : IsName host) : normal host = fold host := by
  rw [normal, Text.trim_eq_self proper.visible, Text.dropEnd_eq_self proper.last_ne_point]

theorem fold_normal (host : List Char) : fold (normal host) = normal host :=
  Text.fold_fold _

/-- The normal form of a host that is accepted in this form is its own normal form. -/
theorem normal_normal (proper : IsName (normal host)) : normal (normal host) = normal host := by
  rw [normal_of_isName proper, fold_normal]

-- Of a text that is not accepted, a second pass may take away more.
example : normal (normal "a. .".toList) ≠ normal "a. .".toList := by decide +kernel

/-!
### The name of a host
-/

/-- The byte of an ASCII character. -/
def byteOf (c : Char) : UInt8 :=
  UInt8.ofNat c.toNat

theorem toNat_byteOf (ascii : c.toNat < 0x80) : (byteOf c).toNat = c.toNat := by
  rw [byteOf, UInt8.toNat_ofNat']
  omega

/-- What labels of hosts are made of: letters, digits, underscores, and hyphens but for the first
place. -/
def IsLabelCode (first : Bool) (code : Nat) : Prop :=
  (0x30 ≤ code ∧ code ≤ 0x39) ∨ (0x41 ≤ code ∧ code ≤ 0x5A) ∨ (0x61 ≤ code ∧ code ≤ 0x7A) ∨
    code = 0x5F ∨ (code = 0x2D ∧ first = false)

instance (first : Bool) (code : Nat) : Decidable (IsLabelCode first code) :=
  inferInstanceAs (Decidable (_ ∨ _))

/-- A label of a name that can be one of a host. -/
def IsHostLabel (label : Utf8.Bytes) : Prop :=
  (∀ byte ∈ label, IsLabelCode false byte.toNat) ∧
    ∀ byte ∈ label.head?, IsLabelCode true byte.toNat

instance (label : Utf8.Bytes) : Decidable (IsHostLabel label) :=
  inferInstanceAs (Decidable (_ ∧ _))

theorem isLabelCode_lower {first : Bool} (byte : UInt8) :
    IsLabelCode first (Dns.lower byte).toNat ↔ IsLabelCode first byte.toNat := by
  rw [Dns.toNat_lower, IsLabelCode, IsLabelCode]
  split <;> grind

theorem isHostLabel_lower (label : Utf8.Bytes) :
    IsHostLabel (label.map Dns.lower) ↔ IsHostLabel label := by
  simp [IsHostLabel, isLabelCode_lower]

theorem IsName.isLabelCode (proper : IsName host) (member : label ∈ host.splitOn '.') :
    (∀ c ∈ label, IsLabelCode false c.toNat) ∧ ∀ c ∈ label.head?, IsLabelCode true c.toNat := by
  have later : ∀ c ∈ label, IsLabelCode false c.toNat := by
    intro c inside
    have character := isHostCharacter_iff.mp
      (proper.characters c (Text.mem_of_mem_splitOn member inside))
    have noPoint : c.toNat ≠ 0x2E := by
      intro code
      have point : c = '.' := Char.toNat_inj.mp code
      rw [point] at inside
      exact Text.not_mem_of_mem_splitOn member inside
    rw [IsLabelCode]
    grind
  refine ⟨later, fun c start => ?_⟩
  have character := later c (List.mem_of_mem_head? start)
  have noHyphen : c.toNat ≠ 0x2D := by
    intro code
    have hyphen : c = '-' := Char.toNat_inj.mp code
    rw [hyphen] at start
    exact (proper.labels label member).2.2 start
  rw [IsLabelCode] at character ⊢
  grind

theorem ascii_of_isLabelCode {first : Bool} (code : IsLabelCode first c.toNat) :
    c.toNat < 0x80 := by
  rw [IsLabelCode] at code
  omega

theorem byteText_byteOf {first : Bool} (code : IsLabelCode first c.toNat) :
    Dns.Name.byteText first (byteOf c) = [c] := by
  have value := toNat_byteOf (ascii_of_isLabelCode code)
  have bare : Dns.Name.isBare first (byteOf c) = true := by
    rw [Dns.Name.isBare_iff, value]
    rw [IsLabelCode] at code
    grind
  rw [Dns.Name.byteText, if_pos bare, value, Char.ofNat_toNat]

theorem labelText_map_byteOf (later : ∀ c ∈ label, IsLabelCode false c.toNat)
    (start : ∀ c ∈ label.head?, IsLabelCode true c.toNat) :
    Dns.Name.labelText (label.map byteOf) = label := by
  cases label with
  | nil => rfl
  | cons c rest =>
      have plain : (rest.map byteOf).flatMap (Dns.Name.byteText false) = rest := by
        rw [List.flatMap_map]
        refine (List.flatMap_congr fun c member => ?_).trans (List.flatMap_singleton' rest)
        exact byteText_byteOf (later c (List.mem_cons_of_mem _ member))
      rw [List.map_cons, Dns.Name.labelText, byteText_byteOf (start c rfl), plain,
        List.singleton_append]

/-- A host name with a point behind it is the text of a name, whose labels are those of hosts. -/
theorem IsName.exists_name (proper : IsName host) :
    ∃ name, Dns.Name.ofText? host = some name ∧ name.text = host ++ ['.'] ∧
      ∀ label ∈ name.labels, IsHostLabel label := by
  have encoded : (host.splitOn '.').map Utf8.encode = (host.splitOn '.').map (List.map byteOf) :=
    List.map_congr_left fun label member => Utf8.encode_of_ascii fun c inside =>
      ascii_of_isLabelCode ((proper.isLabelCode member).1 c inside)
  have isLabel : ∀ label ∈ (host.splitOn '.').map (List.map byteOf), Dns.IsLabel label := by
    intro label member
    obtain ⟨part, found, rfl⟩ := List.mem_map.mp member
    obtain ⟨some, short, _⟩ := proper.labels part found
    rw [Dns.IsLabel, List.length_map]
    exact ⟨List.length_pos_iff.mpr some, short⟩
  have length : Dns.wireLength ((host.splitOn '.').map (List.map byteOf)) ≤ 255 := by
    have sum := Text.sum_length_splitOn '.' host
    have short := proper.length
    rw [Dns.wireLength_eq, List.map_map]
    simp only [Function.comp_def, List.length_map]
    omega
  refine ⟨⟨_, isLabel, length⟩, ?_, ?_, ?_⟩
  · have last : (host.getLast? == some '.') = false :=
      beq_false_of_ne fun point => absurd (proper.last_ne_point '.' point) (by decide)
    rw [Dns.Name.ofText?, last, if_neg (by decide), Dns.Name.ofDotted?,
      if_neg (by simp [proper.ne_nil]), encoded, Dns.Name.of?, dif_pos ⟨isLabel, length⟩]
  · have some : ((host.splitOn '.').map (List.map byteOf)).isEmpty = false := by
      simp [List.splitOn_ne_nil]
    rw [Dns.Name.text, some, if_neg (by decide), List.flatMap_map, ← Text.flatMap_splitOn]
    refine List.flatMap_congr fun label member => ?_
    obtain ⟨later, start⟩ := proper.isLabelCode member
    rw [labelText_map_byteOf later start]
  · intro label member
    obtain ⟨part, found, rfl⟩ := List.mem_map.mp member
    obtain ⟨later, start⟩ := proper.isLabelCode found
    refine ⟨fun byte inside => ?_, fun byte first => ?_⟩
    · obtain ⟨c, source, rfl⟩ := List.mem_map.mp inside
      rw [toNat_byteOf (ascii_of_isLabelCode (later c source))]
      exact later c source
    · rw [List.head?_map] at first
      obtain ⟨c, source, rfl⟩ := Option.map_eq_some_iff.mp first
      rw [toNat_byteOf (ascii_of_isLabelCode (start c source))]
      exact start c source

/-- A host name in lower case is the normal form of the name that is read from it. -/
theorem IsName.exists_name_normal (proper : IsName host) (lower : fold host = host) :
    ∃ name, Dns.Name.ofText? host = some name ∧ normal name.text = host ∧
      ∀ label ∈ name.labels, IsHostLabel label := by
  obtain ⟨name, read, text, labels⟩ := proper.exists_name
  refine ⟨name, read, ?_, labels⟩
  rw [normal_text, Dns.Name.text_lowered, text, fold, List.map_append, ← fold, lower]
  exact (Text.dropEnd_concat host '.').trans (Text.dropEnd_eq_self proper.last_ne_point)

end Host

end QueryJournal
