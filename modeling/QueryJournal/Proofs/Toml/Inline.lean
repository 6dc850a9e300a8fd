import QueryJournal.Proofs.Toml.Text
import QueryJournal.Toml.Printer
import QueryJournal.Toml.Reader

namespace QueryJournal.Toml

open QueryJournal.Document
open QueryJournal.Text

/-!
Reading a value undoes writing it where the value is no table: a truth value, a number, a text, or a
list of such values. What follows a written value is the end of a line, a comma or the end of a
list; none of them can be taken for a part of the value.
-/

variable {depth number : Nat} {value : Value} {c stop : Char} {text digits rest : List Char}

/-- The characters that may follow a written value. -/
def IsStop (c : Char) : Prop :=
  c ∈ ['\n', ',', ']']

/-!
### Numbers
-/

theorem isDigit_of_mem_decimal (member : c ∈ Numeral.decimal number) :
    Numeral.isDigit c = true := by
  obtain ⟨digit, small, rfl⟩ := Numeral.mem_digits (by decide) member
  exact Numeral.isDigit_digitChar digit small

theorem IsStop.isDigit (ends : IsStop stop) : Numeral.isDigit stop = false := by
  simp only [IsStop, List.mem_cons, List.not_mem_nil, or_false] at ends
  rcases ends with rfl | rfl | rfl <;> decide

theorem digitPiece?_of_ne (cls : Char → Bool) (other : c ≠ '_') (text : List Char) :
    digitPiece? cls (c :: text) = if cls c then some (c, text) else none := by
  unfold digitPiece?
  split
  case h_1 same => exact absurd (List.cons.inj same).1 other
  case h_2 same =>
    cases same
    rfl
  case h_3 same => cases same

theorem many_digitPiece? (numeral : ∀ c ∈ digits, Numeral.isDigit c = true) (ends : IsStop stop)
    (rest : List Char) :
    many (digitPiece? Numeral.isDigit) (digits ++ stop :: rest) = (digits, stop :: rest) := by
  induction digits with
  | nil =>
      have other : stop ≠ '_' := by
        rintro rfl
        exact absurd ends (by simp [IsStop])
      have none := digitPiece?_of_ne Numeral.isDigit other rest
      rw [ends.isDigit] at none
      exact many_of_none none
  | cons c digits ih =>
      have digit := numeral c (by simp)
      have other : c ≠ '_' := by
        rintro rfl
        exact absurd digit (by decide)
      have read := digitPiece?_of_ne Numeral.isDigit other (digits ++ stop :: rest)
      rw [if_pos digit] at read
      rw [List.cons_append, many_of_some read (by simp),
        ih fun d member => numeral d (by simp [member])]

theorem whole?_decimal (number : Nat) (ends : IsStop stop) (rest : List Char) :
    whole? (Numeral.decimal number ++ stop :: rest) =
      some (Numeral.decimal number, stop :: rest) := by
  obtain ⟨digit, more, written, small, zero, alone⟩ :=
    Numeral.digits_eq_cons (by decide : 2 ≤ 10) number
  have numeral : ∀ c ∈ Numeral.decimal number, Numeral.isDigit c = true :=
    fun _ => isDigit_of_mem_decimal
  rw [Numeral.decimal, written] at numeral ⊢
  by_cases none : number = 0
  · rw [alone none, zero.mpr none]
    rfl
  · have other : ∀ digit < 10, digit ≠ 0 → Numeral.digitChar digit ≠ '0' := by decide
    have first := other digit small (fun same => none (zero.mp same))
    have others : ∀ c ∈ more, Numeral.isDigit c = true := fun c member =>
      numeral c (by simp [member])
    have row := many_digitPiece? others ends rest
    rw [List.cons_append]
    unfold whole?
    split
    · exact absurd (List.cons.inj ‹_›).1 first
    · rw [digits?, if_pos (numeral _ (by simp)), row]

/-- What follows a part of a row of digits is a digit or what follows the row. -/
theorem exactly?_digits {count : Nat} {part after : List Char}
    (numeral : ∀ c ∈ digits, Numeral.isDigit c = true) (ends : IsStop stop)
    (read : exactly? count Numeral.isDigit (digits ++ stop :: rest) = some (part, after)) :
    ∃ c more, after = c :: more ∧ (Numeral.isDigit c = true ∨ IsStop c) := by
  simp only [exactly?, Option.ite_none_right_eq_some, Option.some.injEq, Prod.mk.injEq] at read
  obtain ⟨⟨size, inside⟩, rfl, rfl⟩ := read
  have within : count ≤ digits.length := by
    by_contra beyond
    have reached : stop ∈ (digits ++ stop :: rest).take count := by
      rw [List.take_append]
      obtain ⟨more, positive⟩ := Nat.exists_eq_add_of_lt (Nat.lt_of_not_le beyond)
      rw [show count - digits.length = more + 1 by omega, List.take_succ_cons]
      simp
    have digit := List.all_eq_true.mp inside stop reached
    rw [ends.isDigit] at digit
    exact absurd digit (by decide)
  rw [List.drop_append_of_le_length within]
  cases left : digits.drop count with
  | nil => exact ⟨stop, rest, rfl, .inr ends⟩
  | cons c more =>
      exact ⟨c, _, rfl, .inl (numeral c (List.mem_of_mem_drop (left ▸ List.mem_cons_self)))⟩

theorem exactly?_of_not {count : Nat} {cls : Char → Bool} (outside : cls c = false)
    (text : List Char) : exactly? (count + 1) cls (c :: text) = none := by
  simp [exactly?, outside]

theorem not_separator (next : Numeral.isDigit c = true ∨ IsStop c) :
    c ≠ '-' ∧ c ≠ ':' ∧ c ≠ '.' := by
  refine ⟨?_, ?_, ?_⟩ <;>
  · rintro rfl
    rcases next with digit | ends
    · exact absurd digit (by decide)
    · exact absurd ends (by simp [IsStop])

/-- No whole number is taken for a date or a time. -/
theorem momentValue?_digits (numeral : ∀ c ∈ digits, Numeral.isDigit c = true)
    (ends : IsStop stop) (rest : List Char) : momentValue? (digits ++ stop :: rest) = none := by
  have noDate : date? (digits ++ stop :: rest) = none := by
    cases read : exactly? 4 Numeral.isDigit (digits ++ stop :: rest) with
    | none => simp only [date?, read, Option.bind_eq_bind, Option.bind_none]
    | some found =>
        obtain ⟨part, after⟩ := found
        obtain ⟨c, more, rfl, next⟩ := exactly?_digits numeral ends read
        simp only [date?, read, Option.bind_eq_bind, Option.bind_some,
          skip?_of_ne (not_separator next).1, Option.bind_none]
  have noTime : time? (digits ++ stop :: rest) = none := by
    cases read : exactly? 2 Numeral.isDigit (digits ++ stop :: rest) with
    | none => simp only [time?, twoDigits?, read, Option.bind_eq_bind, Option.bind_none]
    | some found =>
        obtain ⟨part, after⟩ := found
        obtain ⟨c, more, rfl, next⟩ := exactly?_digits numeral ends read
        have colon : skip? ':' (c :: more) = none := skip?_of_ne (not_separator next).2.1
        by_cases small : Numeral.value 10 part ≤ 23
        · simp only [time?, twoDigits?, read, Option.bind_eq_bind, Option.bind_some, small,
            ↓reduceIte, Option.pure_def, colon, Option.bind_none]
        · simp only [time?, twoDigits?, read, Option.bind_eq_bind, Option.bind_some, small,
            ↓reduceIte, Option.bind_none]
  rw [momentValue?, moment?, noDate, noTime, Option.map_none]

theorem fraction?_stop (ends : IsStop stop) (rest : List Char) :
    fraction? (stop :: rest) = none := by
  simp only [IsStop, List.mem_cons, List.not_mem_nil, or_false] at ends
  rcases ends with rfl | rfl | rfl <;> rfl

/-- The letters for other bases, for words, and the signs. -/
def marksOfNumbers : List Char :=
  ['x', 'o', 'b', 'i', 'n', '-', '+']

theorem not_mark_of_number (next : Numeral.isDigit c = true ∨ IsStop c) :
    c ∉ marksOfNumbers := by
  rcases next with digit | ends
  · intro member
    simp only [marksOfNumbers, List.mem_cons, List.not_mem_nil, or_false] at member
    rcases member with rfl | rfl | rfl | rfl | rfl | rfl | rfl <;> exact absurd digit (by decide)
  · simp only [IsStop, List.mem_cons, List.not_mem_nil, or_false] at ends
    rcases ends with rfl | rfl | rfl <;> decide

/-- A numeral starts with a digit, and no letter for another base follows the digit. -/
theorem decimal_start (number : Nat) (ends : IsStop stop) (rest : List Char) :
    ∃ c d more, Numeral.decimal number ++ stop :: rest = c :: d :: more ∧
      Numeral.isDigit c = true ∧ (Numeral.isDigit d = true ∨ IsStop d) := by
  have numeral : ∀ c ∈ Numeral.decimal number, Numeral.isDigit c = true :=
    fun _ => isDigit_of_mem_decimal
  obtain ⟨digit, more, written, _⟩ := Numeral.digits_eq_cons (by decide : 2 ≤ 10) number
  rw [Numeral.decimal, written] at numeral ⊢
  have first := numeral _ List.mem_cons_self
  cases more with
  | nil => exact ⟨_, stop, rest, rfl, first, .inr ends⟩
  | cons d more => exact ⟨_, d, _, rfl, first, .inl (numeral d (by simp))⟩

theorem sign_of_not (minus : c ≠ '-') (plus : c ≠ '+') (text : List Char) :
    sign (c :: text) = (false, c :: text) := by
  unfold sign
  split
  case h_1 same => exact absurd (List.cons.inj same).1 minus
  case h_2 same => exact absurd (List.cons.inj same).1 plus
  case h_3 => rfl

theorem integer?_of_whole {negative : Bool} {d : Char} {more start digits : List Char}
    (other : d ∉ marksOfNumbers)
    (signed : sign (c :: d :: more) = (negative, start))
    (whole : whole? start = some (digits, rest)) :
    integer? (c :: d :: more) =
      (integerOf? negative (Numeral.value 10 digits)).map fun value => (value, rest) := by
  simp only [marksOfNumbers, List.mem_cons, List.not_mem_nil, or_false, not_or] at other
  obtain ⟨hexadecimal, octal, binary, _⟩ := other
  unfold integer?
  split
  case h_1 same => exact absurd (List.cons.inj (List.cons.inj same).2).1 hexadecimal
  case h_2 same => exact absurd (List.cons.inj (List.cons.inj same).2).1 octal
  case h_3 same => exact absurd (List.cons.inj (List.cons.inj same).2).1 binary
  case h_4 =>
    simp only [signed, whole, Option.bind_eq_bind, Option.bind_some]
    cases integerOf? negative (Numeral.value 10 digits) <;> rfl

/-- A whole number is read by none of the forms that are tried before. -/
theorem numeric?_of_whole {negative : Bool} {d : Char} {more : List Char}
    (other : d ∉ marksOfNumbers)
    (moment : momentValue? (c :: d :: more) = none)
    (signed : sign (c :: d :: more) = (negative, Numeral.decimal number ++ stop :: rest))
    (ends : IsStop stop) :
    numeric? (c :: d :: more) =
      (integerOf? negative number).map fun value => (value, stop :: rest) := by
  have whole := whole?_decimal number ends rest
  have noFraction : fractional? (c :: d :: more) = none := by
    simp only [fractional?, signed, whole, Option.bind_eq_bind, Option.bind_some,
      fraction?_stop ends, Option.bind_none]
  have notSpecial : specialNumber? (c :: d :: more) = none := by
    obtain ⟨first, second, tail, start, digit, _⟩ := decimal_start number ends rest
    have other := not_mark_of_number (.inl digit)
    simp only [marksOfNumbers, List.mem_cons, List.not_mem_nil, or_false, not_or] at other
    obtain ⟨_, _, _, i, n, _⟩ := other
    simp only [specialNumber?, signed, start, strip?, beq_iff_eq, Ne.symm i, Ne.symm n, ↓reduceIte,
      Option.map_none]
  rw [numeric?, moment, noFraction, notSpecial, integer?_of_whole other signed whole,
    Numeral.decimal, Numeral.value_digits (by decide) (by decide)]
  rfl

theorem momentValue?_minus (text : List Char) : momentValue? ('-' :: text) = none := by
  have digit : Numeral.isDigit '-' = false := by decide
  have noDate : date? ('-' :: text) = none := by
    simp only [date?, exactly?_of_not digit, Option.bind_eq_bind, Option.bind_none]
  have noTime : time? ('-' :: text) = none := by
    simp only [time?, twoDigits?, exactly?_of_not digit, Option.bind_eq_bind, Option.bind_none]
  rw [momentValue?, moment?, noDate, noTime, Option.map_none]

/-- The numbers that a text may hold. -/
def IsWord (value : Int) : Prop :=
  Int64.minValue.toInt ≤ value ∧ value ≤ Int64.maxValue.toInt

theorem numeric?_signed {value : Int} (bounded : IsWord value) (ends : IsStop stop)
    (rest : List Char) :
    numeric? (Numeral.signed value ++ stop :: rest) = some (.integer value, stop :: rest) := by
  cases value with
  | ofNat number =>
      obtain ⟨c, d, more, start, digit, next⟩ := decimal_start number ends rest
      have numeral : ∀ c ∈ Numeral.decimal number, Numeral.isDigit c = true :=
        fun _ => isDigit_of_mem_decimal
      have moment := momentValue?_digits numeral ends rest
      have signs := not_mark_of_number (.inl digit)
      simp only [marksOfNumbers, List.mem_cons, List.not_mem_nil, or_false, not_or] at signs
      obtain ⟨_, _, _, _, _, minus, plus⟩ := signs
      have read := numeric?_of_whole (not_mark_of_number next) (start ▸ moment)
        ((sign_of_not minus plus (d :: more)).trans (by rw [start])) ends
      have word : integerOf? false number = some (.integer number) := if_pos bounded
      rw [Numeral.signed, start, read, word]
      rfl
  | negSucc number =>
      obtain ⟨c, more, start, digit⟩ : ∃ c more,
          Numeral.decimal (number + 1) ++ stop :: rest = c :: more ∧ Numeral.isDigit c = true := by
        obtain ⟨c, d, more, start, digit, _⟩ := decimal_start (number + 1) ends rest
        exact ⟨c, d :: more, start, digit⟩
      have read := numeric?_of_whole (not_mark_of_number (.inl digit))
        (momentValue?_minus (c :: more)) (by rw [sign, start]) ends
      have value : -((number + 1 : Nat) : Int) = .negSucc number := rfl
      have word : integerOf? true (number + 1) = some (.integer (.negSucc number)) := by
        simp only [integerOf?, ↓reduceIte, value]
        exact if_pos bounded
      rw [Numeral.signed, List.cons_append, start, read, word]
      rfl

/-!
### Values
-/

/-- The characters between the items of a list. -/
def IsGap (c : Char) : Prop :=
  c ∈ [' ', '\t', '\n', '\r', '#']

/-- What a list is closed with, and what may stand between its items: no written value starts
so. -/
def IsOutside (c : Char) : Prop :=
  IsGap c ∨ c = ']'

/-- A value is read back as it was written, whatever follows it. -/
structure Reads (depth : Nat) (value : Value) : Prop where
  starts : ∃ c more, inlineText value = c :: more ∧ ¬IsOutside c
  reads : ∀ stop rest, IsStop stop →
    value? depth (inlineText value ++ stop :: rest) = some (value, stop :: rest)

theorem value?_eq_scalar? (depth : Nat) (list : c ≠ '[') (table : c ≠ '\x7b') (text : List Char) :
    value? depth (c :: text) = scalar? (c :: text) := by
  cases depth with
  | zero => rfl
  | succ depth =>
      unfold value?
      split
      case h_1 same => exact absurd (List.cons.inj same).1 list
      case h_2 same => exact absurd (List.cons.inj same).1 table
      case h_3 => rfl

theorem reads_bool (depth : Nat) (value : Bool) : Reads depth (.bool value) := by
  cases value with
  | true =>
      refine ⟨⟨'t', _, rfl, by simp [IsOutside, IsGap]⟩, fun stop rest _ => ?_⟩
      exact (value?_eq_scalar? depth (by decide) (by decide) _).trans rfl
  | false =>
      refine ⟨⟨'f', _, rfl, by simp [IsOutside, IsGap]⟩, fun stop rest _ => ?_⟩
      exact (value?_eq_scalar? depth (by decide) (by decide) _).trans rfl

theorem head_signed (value : Int) :
    ∃ c more, Numeral.signed value = c :: more ∧ (c = '-' ∨ Numeral.isDigit c = true) := by
  cases value with
  | ofNat number =>
      obtain ⟨digit, more, written, small, _⟩ :=
        Numeral.digits_eq_cons (by decide : 2 ≤ 10) number
      exact ⟨_, more, written, .inr (Numeral.isDigit_digitChar digit small)⟩
  | negSucc number => exact ⟨'-', _, rfl, .inl rfl⟩

theorem reads_integer (depth : Nat) {value : Int} (bounded : IsWord value) :
    Reads depth (.integer value) := by
  obtain ⟨c, more, written, first⟩ := head_signed value
  have other : c ∉ ['[', '\x7b', '"', '\'', ' ', '\t', '\n', '\r', '#', ']'] := by
    intro member
    simp only [List.mem_cons, List.not_mem_nil, or_false] at member
    rcases member with rfl | rfl | rfl | rfl | rfl | rfl | rfl | rfl | rfl | rfl <;>
      exact absurd first (by decide)
  simp only [List.mem_cons, List.not_mem_nil, or_false, not_or] at other
  obtain ⟨list, table, quote, apostrophe, outside⟩ := other
  have start : ¬IsOutside c := by simpa [IsOutside, IsGap, or_assoc] using outside
  refine ⟨⟨c, more, written, start⟩, fun stop rest ends => ?_⟩
  have read := numeric?_signed bounded ends rest
  have number : (c == '+' || c == '-' || Numeral.isDigit c) = true := by
    rcases first with rfl | digit
    · rfl
    · simp [digit]
  rw [inlineText, written, List.cons_append] at *
  rw [value?_eq_scalar? depth list table]
  simp only [scalar?, beq_iff_eq, quote, apostrophe, Bool.or_eq_true, or_self, ↓reduceIte, read,
    or_assoc]
  simp only [Bool.or_eq_true, beq_iff_eq, or_assoc] at number
  rw [if_pos number]

theorem head_quoted (text : List Char) :
    ∃ c more, quoted text = c :: more ∧ (c = '"' ∨ c = '\'') := by
  have basic : ∃ c more, basicLine text = c :: more ∧ (c = '"' ∨ c = '\'') :=
    ⟨'"', _, rfl, .inl rfl⟩
  have literal : ∃ c more, literalLine text = c :: more ∧ (c = '"' ∨ c = '\'') :=
    ⟨'\'', _, rfl, .inr rfl⟩
  have block : ∃ c more, blockOf .basic text (escaped true 0 text) = c :: more ∧
      (c = '"' ∨ c = '\'') := ⟨'"', _, rfl, .inl rfl⟩
  have literalBlock : ∃ c more, blockOf .literal text text = c :: more ∧ (c = '"' ∨ c = '\'') :=
    ⟨'\'', _, rfl, .inr rfl⟩
  simp only [quoted]
  repeat' split
  all_goals assumption

theorem reads_text (depth : Nat) (value : String) : Reads depth (.text value) := by
  obtain ⟨c, more, written, mark⟩ := head_quoted value.toList
  have outside : c ≠ '[' ∧ c ≠ '\x7b' ∧ ¬IsOutside c := by
    rcases mark with rfl | rfl <;> exact ⟨by decide, by decide, by simp [IsOutside, IsGap]⟩
  refine ⟨⟨c, more, written, outside.2.2⟩, fun stop rest ends => ?_⟩
  have other : stop ≠ '"' ∧ stop ≠ '\'' := by
    simp only [IsStop, List.mem_cons, List.not_mem_nil, or_false] at ends
    rcases ends with rfl | rfl | rfl <;> decide
  have read := string?_quoted other.1 other.2 value.toList rest
  rw [inlineText]
  rw [written, List.cons_append] at read ⊢
  rw [value?_eq_scalar? depth outside.1 outside.2.1]
  have string : (c == '"' || c == '\'') = true := by simpa using mark
  simp only [scalar?, string, ↓reduceIte, read, Option.map_some, String.ofList_toList]

/-!
### Lists
-/

theorem skipListGaps_of_not (shown : ¬IsGap c) (text : List Char) :
    skipListGaps (c :: text) = c :: text := by
  simp only [IsGap, List.mem_cons, List.not_mem_nil, or_false, not_or] at shown
  obtain ⟨space, tab, lineEnd, carriage, comment⟩ := shown
  have none : listGap? (c :: text) = none := by
    simp [listGap?, gap?, skipLineEnd?_of_ne lineEnd carriage, isSpace, space, tab,
      skip?_of_ne comment]
  rw [skipListGaps, many_of_none none]

theorem skipListGaps_lineEnd (text : List Char) :
    skipListGaps ('\n' :: text) = skipListGaps text := by
  have gap : listGap? ('\n' :: text) = some ((), text) := rfl
  rw [skipListGaps, many_of_some gap (by simp), ← skipListGaps]

theorem skipListGaps_space (text : List Char) :
    skipListGaps (' ' :: text) = skipListGaps text := by
  have gap : listGap? (' ' :: text) = some ((), text) := rfl
  rw [skipListGaps, many_of_some gap (by simp), ← skipListGaps]

section

variable {item? : Scan Value} {item : Value} {items : List Value} {more tail : List Char}

theorem items?_close (gap : skipListGaps text = ']' :: rest) :
    items? item? text = some ([], rest) := by
  rw [items?, gap]
  rfl

theorem items?_last (gap : skipListGaps text = c :: more) (shown : c ≠ ']')
    (read : item? (c :: more) = some (item, ']' :: rest)) :
    items? item? text = some ([item], rest) := by
  have closed : skipListGaps (']' :: rest) = ']' :: rest :=
    skipListGaps_of_not (by simp [IsGap]) rest
  rw [items?, gap]
  split
  case h_1 same => exact absurd (List.cons.inj same).1 shown
  case h_2 => simp only [read, closed]

theorem items?_next (gap : skipListGaps text = c :: more) (shown : c ≠ ']')
    (read : item? (c :: more) = some (item, ',' :: rest)) (shorter : rest.length < text.length)
    (others : items? item? rest = some (items, tail)) :
    items? item? text = some (item :: items, tail) := by
  have comma : skipListGaps (',' :: rest) = ',' :: rest :=
    skipListGaps_of_not (by simp [IsGap]) rest
  rw [items?, gap]
  split
  case h_1 same => exact absurd (List.cons.inj same).1 shown
  case h_2 => simp only [read, comma, shorter, ↓reduceIte, others, Option.map_some]

end

theorem items?_itemLines {items : List Value} (each : ∀ item ∈ items, Reads depth item)
    (rest : List Char) :
    items? (value? depth) (itemLines items ++ '\n' :: ']' :: rest) = some (items, rest) := by
  induction items with
  | nil =>
      have closed : skipListGaps (']' :: rest) = ']' :: rest :=
        skipListGaps_of_not (by simp [IsGap]) rest
      exact items?_close ((skipListGaps_lineEnd _).trans closed)
  | cons item items ih =>
      obtain ⟨⟨c, more, written, outside⟩, read⟩ := each item List.mem_cons_self
      simp only [IsOutside, not_or] at outside
      have others := ih fun other member => each other (List.mem_cons_of_mem item member)
      have found := read ',' (itemLines items ++ '\n' :: ']' :: rest) (by simp [IsStop])
      rw [written, List.cons_append] at found
      refine items?_next ?_ outside.2 found ?_ others
      · simp only [itemLines, written, List.append_assoc, List.cons_append, List.nil_append,
          skipListGaps_lineEnd, skipListGaps_space, skipListGaps_of_not outside.1]
      · simp only [itemLines, List.length_append, List.length_cons]
        omega

theorem reads_list {items : List Value} (each : ∀ item ∈ items, Reads depth item) :
    Reads (depth + 1) (.list items) := by
  have opened : ¬IsOutside '[' := by simp [IsOutside, IsGap]
  match items with
  | [] =>
      refine ⟨⟨'[', _, rfl, opened⟩, fun stop rest _ => ?_⟩
      have closed : skipListGaps (']' :: stop :: rest) = ']' :: stop :: rest :=
        skipListGaps_of_not (by simp [IsGap]) _
      have read : items? (value? depth) (']' :: stop :: rest) = some ([], stop :: rest) :=
        items?_close closed
      simp only [inlineText, List.cons_append, List.nil_append, value?, read, Option.map_some]
  | [item] =>
      refine ⟨⟨'[', _, rfl, opened⟩, fun stop rest _ => ?_⟩
      obtain ⟨⟨c, more, written, outside⟩, reads⟩ := each item List.mem_cons_self
      simp only [IsOutside, not_or] at outside
      have found := reads ']' (stop :: rest) (by simp [IsStop])
      rw [written, List.cons_append] at found
      have read := items?_last (skipListGaps_of_not outside.1 _) outside.2 found
      simp only [inlineText, written, List.append_assoc, List.cons_append, List.nil_append, value?,
        read, Option.map_some]
  | first :: second :: others =>
      refine ⟨⟨'[', _, rfl, opened⟩, fun stop rest _ => ?_⟩
      have read := items?_itemLines each (stop :: rest)
      simp only [inlineText, List.append_assoc, List.cons_append, List.nil_append, value?, read,
        Option.map_some]

/-- What is written without a table of its own and nested no deeper than is read. -/
inductive Inline : Nat → Value → Prop
  | bool (depth : Nat) (value : Bool) : Inline depth (.bool value)
  | integer (depth : Nat) {value : Int} (bounded : IsWord value) : Inline depth (.integer value)
  | text (depth : Nat) (value : String) : Inline depth (.text value)
  | list {depth : Nat} {items : List Value} (each : ∀ item ∈ items, Inline depth item) :
      Inline (depth + 1) (.list items)

/-- The reader undoes the printer on every such value. -/
theorem Inline.reads (inline : Inline depth value) : Reads depth value := by
  induction inline with
  | bool depth value => exact reads_bool depth value
  | integer depth bounded => exact reads_integer depth bounded
  | text depth value => exact reads_text depth value
  | list _ ih => exact reads_list ih

end QueryJournal.Toml
