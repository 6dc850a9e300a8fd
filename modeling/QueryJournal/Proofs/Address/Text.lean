import QueryJournal.Address.Text
import QueryJournal.Proofs.Text.Numeral

namespace QueryJournal.Address

/-!
An address is read back from its text. A version 6 text is cut at its gap, or at no place if it has
none, and the zeros that the gap stands for are those that the longest run of zeros left out.
-/

variable {text : List Char} {groups first last : List UInt16}

/-!
### Version 4
-/

theorem not_mem_decimal {c : Char} (number : Nat) (other : Numeral.isDigit c = false) :
    c ∉ Numeral.decimal number := by
  rw [Numeral.decimal, ← Numeral.padded_zero]
  exact Numeral.not_mem_padded other 0 number

theorem octet?_decimal (byte : UInt8) : octet? (Numeral.decimal byte.toNat) = some byte := by
  have bounded : byte.toNat < 256 := byte.toNat_lt
  have short : (Numeral.decimal byte.toNat).length ≤ 3 :=
    Numeral.digits_length_le (by decide) (by decide) (by omega)
  have leading : (Numeral.decimal byte.toNat).head? ≠ some '0' ∨
      Numeral.decimal byte.toNat = ['0'] := by
    obtain ⟨digit, rest, written, small, zero, alone⟩ :=
      Numeral.digits_eq_cons (by decide : 2 ≤ 10) byte.toNat
    rw [Numeral.decimal, written]
    by_cases none : digit = 0
    · right
      rw [alone (zero.mp none), none]
      rfl
    · left
      have nonzero : ∀ digit < 10, digit ≠ 0 → Numeral.digitChar digit ≠ '0' := by decide
      simpa using nonzero digit small none
  rw [octet?, if_pos ⟨short, leading⟩, Numeral.natural?_decimal, Option.bind_some, if_pos bounded,
    UInt8.ofNat_toNat]

theorem dotted?_dotted (a b c d : UInt8) : dotted? (dotted a b c d) = some (a, b, c, d) := by
  have parts : (dotted a b c d).splitOn '.' = [Numeral.decimal a.toNat, Numeral.decimal b.toNat,
      Numeral.decimal c.toNat, Numeral.decimal d.toNat] := by
    have point : ∀ number, '.' ∉ Numeral.decimal number :=
      fun number => not_mem_decimal number (by decide)
    simp only [dotted, List.append_assoc, List.cons_append, List.nil_append]
    rw [List.splitOn_append_cons_self_of_not_mem (point _),
      List.splitOn_append_cons_self_of_not_mem (point _),
      List.splitOn_append_cons_self_of_not_mem (point _), List.splitOn_eq_singleton (point _)]
  rw [dotted?, parts]
  simp only [octet?_decimal]
  rfl

theorem all_isDigit_of_octet? {byte : UInt8} (read : octet? text = some byte) :
    text.all Numeral.isDigit = true := by
  rw [octet?] at read
  split at read
  · rw [Numeral.natural?] at read
    split at read
    · rename_i digits
      exact digits.2
    · simp at read
  · simp at read

theorem dotted?_eq_none (colon : ':' ∈ text) : dotted? text = none := by
  cases read : dotted? text with
  | none => rfl
  | some bytes =>
      exfalso
      rw [dotted?] at read
      split at read
      · rename_i a b c d parts
        simp only [bind, Option.bind_eq_some_iff] at read
        obtain ⟨_, readA, _, readB, _, readC, _, readD, _⟩ := read
        have digits : ∀ part ∈ [a, b, c, d], ':' ∉ part := by
          intro part member inside
          have all : part.all Numeral.isDigit = true := by
            simp only [List.mem_cons, List.not_mem_nil, or_false] at member
            rcases member with rfl | rfl | rfl | rfl
            · exact all_isDigit_of_octet? readA
            · exact all_isDigit_of_octet? readB
            · exact all_isDigit_of_octet? readC
            · exact all_isDigit_of_octet? readD
          exact absurd (List.all_eq_true.mp all ':' inside) (by decide)
        have whole : ['.'].intercalate [a, b, c, d] = text := by
          rw [← parts, List.intercalate_splitOn]
        have inPart : ':' ∈ a ∨ ':' ∈ b ∨ ':' ∈ c ∨ ':' ∈ d := by
          simpa [List.intercalate, ← whole] using colon
        rcases inPart with inside | inside | inside | inside
        · exact digits a (by simp) inside
        · exact digits b (by simp) inside
        · exact digits c (by simp) inside
        · exact digits d (by simp) inside
      · contradiction

/-!
### Groups
-/

theorem hex_ne_mark : ∀ digit < 16, Numeral.digitChar digit ≠ ':' ∧
    Numeral.digitChar digit ≠ '.' ∧ (Numeral.digitIn? 16 (Numeral.digitChar digit)).isSome := by
  decide

def groupText (group : UInt16) : List Char :=
  Numeral.digits 16 group.toNat

theorem mem_groupText {c : Char} {group : UInt16} (member : c ∈ groupText group) :
    c ≠ ':' ∧ c ≠ '.' ∧ (Numeral.digitIn? 16 c).isSome := by
  obtain ⟨digit, small, rfl⟩ := Numeral.mem_digits (by decide) member
  exact hex_ne_mark digit small

theorem groupText_ne_nil (group : UInt16) : groupText group ≠ [] := by
  obtain ⟨digit, rest, written, _⟩ := Numeral.digits_eq_cons (by decide : 2 ≤ 16) group.toNat
  rw [groupText, written]
  exact List.cons_ne_nil _ _

theorem group?_groupText (group : UInt16) : group? (groupText group) = some group := by
  have bounded : group.toNat < 16 ^ 4 := group.toNat_lt
  have short : (groupText group).length ≤ 4 :=
    Numeral.digits_length_le (by decide) (by decide) bounded
  have digits : (groupText group).all (fun c => (Numeral.digitIn? 16 c).isSome) = true :=
    List.all_eq_true.mpr fun c member => (mem_groupText member).2.2
  rw [group?, if_pos ⟨groupText_ne_nil group, short, digits⟩, groupText,
    Numeral.value_digits (by decide) (by decide), UInt16.ofNat_toNat]

theorem dotted?_groupText (group : UInt16) : dotted? (groupText group) = none := by
  have single : (groupText group).splitOn '.' = [groupText group] :=
    List.splitOn_eq_singleton fun member => (mem_groupText member).2.1 rfl
  rw [dotted?, single]

theorem joined_singleton (group : UInt16) : joined [group] = groupText group := by
  simp [joined, groupText, List.intercalate]

theorem joined_cons_cons (group next : UInt16) (groups : List UInt16) :
    joined (group :: next :: groups) = groupText group ++ ':' :: joined (next :: groups) := by
  simp [joined, groupText, List.intercalate]

theorem joined_ne_nil {group : UInt16} : joined (group :: groups) ≠ [] := by
  cases groups with
  | nil =>
      rw [joined_singleton]
      exact groupText_ne_nil group
  | cons next groups =>
      rw [joined_cons_cons]
      simp

theorem splitOn_joined (present : groups ≠ []) :
    (joined groups).splitOn ':' = groups.map groupText := by
  refine List.splitOn_intercalate ':' ?_ (by simpa using present)
  intro part member
  obtain ⟨group, _, rfl⟩ := List.mem_map.mp member
  exact fun colon => (mem_groupText colon).1 rfl

theorem groups?_map_groupText (dottedEnd : Bool) (groups : List UInt16) :
    groups? dottedEnd (groups.map groupText) = some groups := by
  induction groups with
  | nil => rfl
  | cons group groups ih =>
      cases groups with
      | nil =>
          have none : (if dottedEnd then dotted? (groupText group) else none) = none := by
            rw [dotted?_groupText, ite_self]
          rw [List.map_singleton, groups?, none, group?_groupText]
          rfl
      | cons next groups =>
          rw [List.map_cons, List.map_cons, groups?, group?_groupText, ← List.map_cons, ih]
          · rfl
          · simp

theorem groupsOf?_joined (dottedEnd : Bool) (groups : List UInt16) :
    groupsOf? dottedEnd (joined groups) = some groups := by
  cases groups with
  | nil => rfl
  | cons group groups =>
      have present : (joined (group :: groups)).isEmpty = false := by
        simpa using joined_ne_nil
      rw [groupsOf?, present, if_neg Bool.false_ne_true, splitOn_joined (List.cons_ne_nil _ _),
        groups?_map_groupText]

/-!
### The gap
-/

theorem splitGap_cons {c : Char} (before rest : List Char) (other : c ≠ ':') :
    splitGap before (c :: rest) = splitGap (c :: before) rest := by
  rw [splitGap]
  intro _ colon
  exact absurd colon other

theorem splitGap_plain (before plain rest : List Char) (noColon : ':' ∉ plain) :
    splitGap before (plain ++ rest) = splitGap (plain.reverse ++ before) rest := by
  induction plain generalizing before with
  | nil => rfl
  | cons c plain ih =>
      simp only [List.mem_cons, not_or] at noColon
      rw [List.cons_append, splitGap_cons _ _ (Ne.symm noColon.1), ih _ noColon.2]
      simp

theorem splitGap_groupText (before : List Char) (group : UInt16) (rest : List Char) :
    splitGap before (groupText group ++ rest) =
      splitGap ((groupText group).reverse ++ before) rest :=
  splitGap_plain before _ rest fun colon => (mem_groupText colon).1 rfl

theorem splitGap_colon {c : Char} (before rest : List Char) (other : c ≠ ':') :
    splitGap before (':' :: c :: rest) = splitGap (':' :: before) (c :: rest) := by
  rw [splitGap]
  intro _ _ same
  exact absurd (List.cons.inj same).1 other

theorem joined_eq_cons (group : UInt16) (groups : List UInt16) :
    ∃ c rest, joined (group :: groups) = c :: rest ∧ c ≠ ':' := by
  obtain ⟨c, rest, written⟩ := List.exists_cons_of_ne_nil (groupText_ne_nil group)
  have other : c ≠ ':' := (mem_groupText (written ▸ List.mem_cons_self)).1
  cases groups with
  | nil => exact ⟨c, rest, by rw [joined_singleton, written], other⟩
  | cons next groups =>
      exact ⟨c, rest ++ ':' :: joined (next :: groups),
        by rw [joined_cons_cons, written, List.cons_append], other⟩

theorem splitGap_joined (before : List Char) (groups : List UInt16) (rest : List Char) :
    splitGap before (joined groups ++ rest) =
      splitGap ((joined groups).reverse ++ before) rest := by
  induction groups generalizing before with
  | nil => rfl
  | cons group groups ih =>
      cases groups with
      | nil => rw [joined_singleton, splitGap_groupText]
      | cons next groups =>
          obtain ⟨c, after, written, other⟩ := joined_eq_cons next groups
          have colon : splitGap ((groupText group).reverse ++ before)
              (':' :: joined (next :: groups) ++ rest) =
              splitGap (':' :: (groupText group).reverse ++ before)
                (joined (next :: groups) ++ rest) := by
            rw [written]
            exact splitGap_colon _ _ other
          rw [joined_cons_cons, List.append_assoc, splitGap_groupText, colon, ih]
          simp

theorem splitGap_gap (before rest : List Char) :
    splitGap before (':' :: ':' :: rest) = some (before.reverse, rest) := by
  rw [splitGap]

/-- A position and a length at which groups are zero. -/
def IsZeroRun (groups : List UInt16) (run : Nat × Nat) : Prop :=
  run.1 + run.2 ≤ groups.length ∧ (groups.drop run.1).take run.2 = List.replicate run.2 0

theorem isZeroRun_zeroRun (groups : List UInt16) (start : Nat) (inside : start ≤ groups.length) :
    IsZeroRun groups (start, zeroRun (groups.drop start)) := by
  have zeros : ∀ rest : List UInt16, zeroRun rest ≤ rest.length ∧
      rest.take (zeroRun rest) = List.replicate (zeroRun rest) 0 := by
    intro rest
    induction rest with
    | nil => simp [zeroRun]
    | cons group rest ih =>
        by_cases zero : group = 0
        · subst zero
          have more : zeroRun (0 :: rest) = zeroRun rest + 1 := by simp [zeroRun]
          rw [more, List.take_succ_cons, List.replicate_succ, ih.2]
          exact ⟨Nat.succ_le_succ ih.1, rfl⟩
        · simp [zeroRun, zero]
  obtain ⟨short, zero⟩ := zeros (groups.drop start)
  rw [List.length_drop] at short
  exact ⟨by dsimp only; omega, zero⟩

theorem isZeroRun_longestZeroRun (start : Nat) (best : Nat × Nat)
    (known : IsZeroRun groups best) (inside : start ≤ groups.length) :
    IsZeroRun groups (longestZeroRun start best (groups.drop start)) := by
  generalize rest : groups.drop start = suffix
  induction suffix generalizing start best with
  | nil => exact known
  | cons group suffix ih =>
      have more : start < groups.length := by
        have length := congrArg List.length rest
        rw [List.length_drop, List.length_cons] at length
        omega
      have after : groups.drop (start + 1) = suffix := by
        rw [← List.tail_drop, rest, List.tail_cons]
      refine ih (start + 1) _ ?_ more after
      split
      · rw [← rest]
        exact isZeroRun_zeroRun groups start inside
      · exact known

/-- Groups with a run of zeros are what stands before it, the zeros and what stands after it. -/
theorem eq_append_of_isZeroRun {start length : Nat} (run : IsZeroRun groups (start, length)) :
    groups.take start ++ List.replicate length 0 ++ groups.drop (start + length) = groups := by
  rw [← run.2, ← List.drop_drop, List.append_assoc, List.take_append_drop,
    List.take_append_drop]

/-!
### Version 6
-/

theorem ofGroups?_toList (groups : Vector UInt16 8) : ofGroups? groups.toList = some (.v6 groups) := by
  have eight : groups.toList.toArray.size = 8 := by simp
  rw [ofGroups?, dif_pos eight]
  rfl

/-- Groups with a gap for a run of at least two zeros. -/
theorem parseGroups?_gap {after : List UInt16} (groups : Vector UInt16 8)
    (before : List UInt16) (zeros : Nat) (positive : 0 < zeros)
    (whole : before ++ List.replicate zeros 0 ++ after = groups.toList) (written : groupsOf? true text = some after) :
    parseGroups? (joined before ++ [':', ':'] ++ text) = some (.v6 groups) := by
  have total := congrArg List.length whole
  simp only [List.length_append, List.length_replicate, Vector.length_toList] at total
  have cut : splitGap [] (joined before ++ [':', ':'] ++ text) = some (joined before, text) := by
    rw [List.append_assoc, splitGap_joined]
    simp [splitGap_gap]
  have count : 8 - before.length - after.length = zeros := by omega
  rw [parseGroups?, cut]
  simp only [groupsOf?_joined, written, bind, Option.bind]
  rw [if_pos (by omega), count, whole, ofGroups?_toList]

theorem groupOf_bytes (group : UInt16) : groupOf (highByte group) (lowByte group) = group := by
  have bounded : group.toNat < 65536 := group.toNat_lt
  have high : (highByte group).toNat = group.toNat / 256 := by
    rw [highByte, UInt8.toNat_ofNat']
    omega
  have low : (lowByte group).toNat = group.toNat % 256 := by
    rw [lowByte, UInt8.toNat_ofNat']
    omega
  have whole : group.toNat / 256 * 256 + group.toNat % 256 = group.toNat := by omega
  rw [groupOf, high, low, whole, UInt16.ofNat_toNat]

theorem groupsOf?_mapped (high low : UInt16) :
    groupsOf? true (['f', 'f', 'f', 'f', ':'] ++
      dotted (highByte high) (lowByte high) (highByte low) (lowByte low)) =
      some [0xFFFF, high, low] := by
  have colon : ':' ∉ dotted (highByte high) (lowByte high) (highByte low) (lowByte low) := by
    have other : ∀ number, ':' ∉ Numeral.decimal number :=
      fun number => not_mem_decimal number (by decide)
    simp [dotted, other]
  have parts : (['f', 'f', 'f', 'f', ':'] ++
      dotted (highByte high) (lowByte high) (highByte low) (lowByte low)).splitOn ':' =
      [['f', 'f', 'f', 'f'],
        dotted (highByte high) (lowByte high) (highByte low) (lowByte low)] := by
    have marked : ':' ∉ ['f', 'f', 'f', 'f'] := by decide
    exact (List.splitOn_append_cons_self_of_not_mem marked _).trans
      (congrArg _ (List.splitOn_eq_singleton colon))
  have first : group? ['f', 'f', 'f', 'f'] = some 0xFFFF := by decide
  rw [groupsOf?, parts, if_neg (by simp), groups?, first]
  · simp only [groups?, ↓reduceIte, dotted?_dotted, groupOf_bytes]
    rfl
  · exact List.cons_ne_nil _ _

theorem parseGroups?_groupsText (groups : Vector UInt16 8) :
    parseGroups? (groupsText groups.toList) = some (.v6 groups) := by
  unfold groupsText
  split
  · rename_i high low mapped
    exact parseGroups?_gap groups [] 5 (by decide) mapped.symm (groupsOf?_mapped high low)
  · rename_i plain
    have noRun : IsZeroRun groups.toList (0, 0) := ⟨Nat.zero_le _, rfl⟩
    have run := isZeroRun_longestZeroRun 0 (0, 0) noRun (Nat.zero_le _)
    rw [List.drop_zero] at run
    generalize longestZeroRun 0 (0, 0) groups.toList = best at run ⊢
    obtain ⟨start, length⟩ := best
    by_cases long : 2 ≤ length
    · simp only [long, ↓reduceIte]
      exact parseGroups?_gap groups _ length (by omega) (eq_append_of_isZeroRun run)
        (groupsOf?_joined true _)
    · simp only [long, ↓reduceIte]
      have uncut : splitGap [] (joined groups.toList) = none := by
        have cut := splitGap_joined [] groups.toList []
        rwa [List.append_nil, splitGap] at cut
      rw [parseGroups?, uncut]
      simp only [groupsOf?_joined, Option.bind_some, ofGroups?_toList]

theorem colon_mem_joined (group next : UInt16) (groups : List UInt16) :
    ':' ∈ joined (group :: next :: groups) := by
  rw [joined_cons_cons]
  simp

theorem colon_mem_groupsText (groups : Vector UInt16 8) : ':' ∈ groupsText groups.toList := by
  unfold groupsText
  split
  · simp
  · generalize longestZeroRun 0 (0, 0) groups.toList = best
    obtain ⟨start, length⟩ := best
    by_cases long : 2 ≤ length
    · simp [long]
    · simp only [long, ↓reduceIte]
      have total : groups.toList.length = 8 := groups.length_toList
      match listed : groups.toList with
      | [] => simp [listed] at total
      | [_] => simp [listed] at total
      | group :: next :: rest => exact colon_mem_joined group next rest

theorem parse?_text (address : Address) : parse? address.text = some address := by
  cases address with
  | v4 a b c d => rw [parse?, text, String.toList_ofList, chars, dotted?_dotted]
  | v6 groups =>
      rw [parse?, text, String.toList_ofList, chars, dotted?_eq_none (colon_mem_groupsText groups)]
      exact parseGroups?_groupsText groups

end QueryJournal.Address
