import Mathlib
import QueryJournal.Text.Numeral

namespace QueryJournal.Numeral

/-!
Reading a numeral undoes writing it, in every radix from two to sixteen. A numeral that is filled up
to a width reads as the same number.
-/

variable {radix number width : Nat}

theorem digitValue?_digitChar : ∀ digit < 16, digitValue? (digitChar digit) = some digit := by
  decide

theorem isDigit_digitChar : ∀ digit < 10, isDigit (digitChar digit) = true := by
  decide

theorem toNat_digitChar : ∀ digit < 10, (digitChar digit).toNat = 0x30 + digit := by
  decide

theorem digits_of_lt (small : number < radix) : digits radix number = [digitChar number] := by
  rw [digits, if_pos (.inl small)]

theorem digits_of_le (large : radix ≤ number) (base : 2 ≤ radix) :
    digits radix number = digits radix (number / radix) ++ [digitChar (number % radix)] := by
  rw [digits, if_neg (by omega)]

theorem mem_digits {c : Char} (base : 2 ≤ radix) (member : c ∈ digits radix number) :
    ∃ digit < radix, c = digitChar digit := by
  induction number using Nat.strongRecOn with
  | _ number ih =>
      by_cases small : number < radix
      · rw [digits_of_lt small, List.mem_singleton] at member
        exact ⟨number, small, member⟩
      · rw [digits_of_le (Nat.le_of_not_lt small) base, List.mem_append,
          List.mem_singleton] at member
        rcases member with earlier | last
        · exact ih _ (Nat.div_lt_self (by omega) base) earlier
        · exact ⟨number % radix, Nat.mod_lt _ (by omega), last⟩

theorem value_concat (radix : Nat) (text : List Char) (c : Char) :
    value radix (text ++ [c]) = value radix text * radix + (digitValue? c).getD 0 := by
  rw [value, List.foldl_append]
  rfl

theorem value_digits (base : 2 ≤ radix) (bounded : radix ≤ 16) (number : Nat) :
    value radix (digits radix number) = number := by
  induction number using Nat.strongRecOn with
  | _ number ih =>
      by_cases small : number < radix
      · rw [digits_of_lt small, ← List.nil_append [digitChar number], value_concat,
          digitValue?_digitChar _ (by omega)]
        simp [value]
      · have last : number % radix < 16 := Nat.lt_of_lt_of_le (Nat.mod_lt _ (by omega)) bounded
        rw [digits_of_le (Nat.le_of_not_lt small) base, value_concat,
          ih _ (Nat.div_lt_self (by omega) base), digitValue?_digitChar _ last]
        exact Nat.div_add_mod' number radix

/-- The first digit is zero in the numeral of zero only, which has no other digit. -/
theorem digits_eq_cons (base : 2 ≤ radix) (number : Nat) :
    ∃ digit rest, digits radix number = digitChar digit :: rest ∧ digit < radix ∧
      (digit = 0 ↔ number = 0) ∧ (number = 0 → rest = []) := by
  induction number using Nat.strongRecOn with
  | _ number ih =>
      by_cases small : number < radix
      · exact ⟨number, [], digits_of_lt small, small, Iff.rfl, fun _ => rfl⟩
      · have large := Nat.le_of_not_lt small
        have positive := Nat.div_pos large (by omega)
        obtain ⟨digit, rest, found, bounded, leading, _⟩ := ih _ (Nat.div_lt_self (by omega) base)
        refine ⟨digit, rest ++ [digitChar (number % radix)], ?_, bounded, ?_, ?_⟩
        · rw [digits_of_le large base, found, List.cons_append]
        · rw [leading]
          omega
        · omega

theorem digits_length_le (base : 2 ≤ radix) (positive : 0 < width)
    (fits : number < radix ^ width) : (digits radix number).length ≤ width := by
  induction width generalizing number with
  | zero => contradiction
  | succ width ih =>
      by_cases small : number < radix
      · rw [digits_of_lt small]
        exact Nat.succ_le_succ (Nat.zero_le _)
      · have large := Nat.le_of_not_lt small
        have shorter : number / radix < radix ^ width := by
          rw [Nat.pow_succ] at fits
          exact Nat.div_lt_of_lt_mul (by rwa [Nat.mul_comm])
        have some : 0 < width := by
          cases width with
          | zero => simp at fits; omega
          | succ => omega
        rw [digits_of_le large base, List.length_append]
        exact Nat.succ_le_succ (ih some shorter)

theorem padded_length (base : 2 ≤ radix) (positive : 0 < width)
    (fits : number < radix ^ width) : (padded width radix number).length = width := by
  have short := digits_length_le base positive fits
  simp only [padded, List.length_append, List.length_replicate]
  omega

theorem mem_padded {c : Char} (base : 2 ≤ radix) (member : c ∈ padded width radix number) :
    ∃ digit < radix, c = digitChar digit := by
  rw [padded, List.mem_append] at member
  rcases member with zero | digit
  · exact ⟨0, by omega, (List.mem_replicate.mp zero).2⟩
  · exact mem_digits base digit

theorem padded_ne_nil (width radix number : Nat) : padded width radix number ≠ [] := by
  intro empty
  have none := (List.append_eq_nil_iff.mp empty).2
  rw [digits] at none
  split at none <;> simp at none

private theorem value_zeros (radix count : Nat) (text : List Char) :
    value radix (List.replicate count '0' ++ text) = value radix text := by
  induction count with
  | zero => rfl
  | succ count ih =>
      rw [List.replicate_succ, List.cons_append, value, List.foldl_cons, Nat.zero_mul]
      exact ih

theorem value_padded (base : 2 ≤ radix) (bounded : radix ≤ 16) (width number : Nat) :
    value radix (padded width radix number) = number := by
  rw [padded, value_zeros, value_digits base bounded]

theorem all_isDigit_padded (width number : Nat) : (padded width 10 number).all isDigit = true := by
  rw [List.all_eq_true]
  intro c member
  obtain ⟨digit, small, rfl⟩ := mem_padded (by decide) member
  exact isDigit_digitChar digit small

theorem not_mem_padded {c : Char} (other : isDigit c = false) (width number : Nat) :
    c ∉ padded width 10 number := by
  intro member
  have digit := List.all_eq_true.mp (all_isDigit_padded width number) c member
  rw [digit] at other
  contradiction

theorem padded_zero (radix number : Nat) : padded 0 radix number = digits radix number := by
  rw [padded, Nat.zero_sub, List.replicate_zero, List.nil_append]

theorem natural?_padded (width number : Nat) : natural? (padded width 10 number) = some number := by
  rw [natural?, if_pos ⟨padded_ne_nil width 10 number, all_isDigit_padded width number⟩,
    value_padded (by decide) (by decide)]

theorem natural?_decimal (number : Nat) : natural? (decimal number) = some number := by
  rw [decimal, ← padded_zero, natural?_padded]

end QueryJournal.Numeral
