import QueryJournal.Proofs.Text.Numeral
import QueryJournal.Proofs.Time.Calendar
import QueryJournal.Time.Text

namespace QueryJournal.Time

open QueryJournal.Numeral (isDigit)
open QueryJournal.Text (isBlank)

/-!
Reading an instant undoes writing it. The form for people takes every instant, leap seconds and
years of more than four digits included; the stamp of a file name takes whole seconds in years of
four digits, and in other years it cannot be read.
-/

variable {text rest : List Char} {least number : Nat} {most : Option Nat} {year : Int}

namespace Instant

theorem date_isValid (instant : Instant) : instant.date.IsValid :=
  (Date.ofDay_spec _).1

theorem year_between (instant : Instant) :
    firstYear ≤ instant.date.year ∧ instant.date.year ≤ lastYear := by
  have first := instant.first_le
  have last := instant.le_last
  have start : daysBeforeYear firstYear = -95745764 := by decide
  have stop : daysBeforeYear (lastYear + 1) = 95745765 := by decide
  have epoch : epochDay = 719528 := by decide
  have firstBound : firstSecond = -96465292 * 86400 := by decide
  have lastBound : lastSecond = 95026236 * 86400 + 86399 := by decide
  exact Date.yearOf_between (by omega) (by omega)

theorem hour_lt (instant : Instant) : instant.hour < 24 := by
  simp only [hour, daySecond]
  omega

theorem minute_lt (instant : Instant) : instant.minute < 60 :=
  Nat.mod_lt _ (by decide)

theorem subsecond_lt (instant : Instant) : instant.subsecond < 1000000000 :=
  Nat.mod_lt _ (by decide)

/-- Only after the last second of a minute is there a leap second. -/
theorem second_cases (instant : Instant) :
    (instant.second < 60 ∧ instant.second = instant.daySecond % 60 ∧
      instant.subsecond = instant.nanos) ∨
    (instant.second = 60 ∧ instant.daySecond % 60 = 59 ∧
      instant.subsecond + 1000000000 = instant.nanos) := by
  have bounded := instant.nanos_lt
  simp only [second, subsecond, daySecond, nanosLimit] at bounded ⊢
  split at bounded <;> omega

theorem second_le (instant : Instant) : instant.second ≤ 60 := by
  rcases instant.second_cases with ⟨usual, -⟩ | ⟨leap, -⟩ <;> omega

theorem of?_self (instant : Instant) : of? instant.seconds instant.nanos = some instant := by
  rw [of?, dif_pos ⟨instant.first_le, instant.le_last, instant.nanos_lt⟩]

theorem ofParts?_self (instant : Instant) :
    ofParts? instant.date instant.hour instant.minute instant.second instant.subsecond 0 =
      some instant := by
  have day : instant.date.dayNumber = instant.seconds / 86400 := (Date.ofDay_spec _).2
  obtain ⟨first, last⟩ := instant.year_between
  have rest : instant.seconds / 86400 * 86400 + instant.daySecond = instant.seconds := by
    simp only [daySecond]
    omega
  rw [ofParts?, if_pos ⟨first, last, instant.date_isValid, instant.hour_lt, instant.minute_lt,
    instant.second_le, instant.subsecond_lt⟩, day]
  have clock : instant.hour * 3600 + instant.minute * 60 + instant.daySecond % 60 =
      instant.daySecond := by
    simp only [hour, minute]
    omega
  rcases instant.second_cases with ⟨usual, second, nanos⟩ | ⟨leap, second, nanos⟩
  · have whole : instant.seconds / 86400 * 86400 + instant.hour * 3600 + instant.minute * 60 +
        instant.second - 0 = instant.seconds := by
      omega
    simp only [Nat.ne_of_lt usual, ↓reduceIte, whole, nanos, of?_self]
  · have whole : instant.seconds / 86400 * 86400 + instant.hour * 3600 + instant.minute * 60 +
        (59 : Nat) - 0 = instant.seconds := by
      omega
    simp only [leap, ↓reduceIte, whole, nanos, of?_self]

end Instant

theorem takeWhile_digits (digits : text.all isDigit = true)
    (ends : ∀ c ∈ rest.head?, isDigit c = false) : (text ++ rest).takeWhile isDigit = text := by
  rw [List.takeWhile_append_of_pos (by simpa using digits)]
  cases rest with
  | nil => simp
  | cons c rest => rw [List.takeWhile_cons_of_neg (by simp [ends c rfl]), List.append_nil]

/-- A numeral is taken whole where what follows cannot go on with it. -/
theorem scanNumber_run (digits : text.all isDigit = true) (enough : least ≤ text.length)
    (fits : ∀ limit ∈ most, text.length ≤ limit) (ends : ∀ c ∈ rest.head?, isDigit c = false) :
    scanNumber least most (text ++ rest) = some (Numeral.value 10 text, rest) := by
  cases most with
  | none =>
      simp only [scanNumber, takeWhile_digits digits ends, Nat.not_lt.mpr enough, ↓reduceIte,
        List.drop_left]
  | some limit =>
      have stop : ∀ c ∈ (rest.take (limit - text.length)).head?, isDigit c = false := by
        intro c member
        rw [List.head?_take] at member
        split at member
        · simp at member
        · exact ends c member
      simp only [scanNumber, List.take_append, List.take_of_length_le (fits limit rfl),
        takeWhile_digits digits stop, Nat.not_lt.mpr enough, ↓reduceIte, List.drop_left]

/-- A numeral of as many digits as are looked at is taken whole, whatever follows. -/
theorem scanNumber_width (digits : text.all isDigit = true) (enough : least ≤ text.length) :
    scanNumber least (some text.length) (text ++ rest) =
      some (Numeral.value 10 text, rest) := by
  have run : text.takeWhile isDigit = text := by
    have whole := takeWhile_digits digits (by simp : ∀ c ∈ ([] : List Char).head?, isDigit c = false)
    rwa [List.append_nil] at whole
  simp only [scanNumber, List.take_left, run, Nat.not_lt.mpr enough, ↓reduceIte, List.drop_left]

theorem isBlank_digitChar : ∀ digit < 10, isBlank (Numeral.digitChar digit) = false := by
  decide

theorem padded_eq_cons (width number : Nat) :
    ∃ c more, Numeral.padded width 10 number = c :: more ∧ ∃ digit < 10,
      c = Numeral.digitChar digit := by
  cases found : Numeral.padded width 10 number with
  | nil => exact absurd found (Numeral.padded_ne_nil width 10 number)
  | cons c more =>
      exact ⟨c, more, rfl, Numeral.mem_padded (by decide) (by rw [found]; exact List.mem_cons_self)⟩

theorem dropWhile_padded (width number : Nat) (rest : List Char) :
    (Numeral.padded width 10 number ++ rest).dropWhile isBlank =
      Numeral.padded width 10 number ++ rest := by
  obtain ⟨c, more, found, digit, small, rfl⟩ := padded_eq_cons width number
  rw [found, List.cons_append, List.dropWhile_cons_of_neg]
  simp [isBlank_digitChar digit small]

/-- A number in two digits is read whatever follows. -/
theorem scanLoose_twoDigits (small : number < 100) (rest : List Char) :
    scanLoose 2 (twoDigits number ++ rest) = some (number, rest) := by
  have length : (twoDigits number).length = 2 :=
    Numeral.padded_length (by decide) (by decide) small
  have read : scanNumber 1 (some (twoDigits number).length) (twoDigits number ++ rest) =
      some (Numeral.value 10 (twoDigits number), rest) :=
    scanNumber_width (Numeral.all_isDigit_padded 2 number) (by omega)
  have skipped : (twoDigits number ++ rest).dropWhile isBlank = twoDigits number ++ rest :=
    dropWhile_padded 2 number rest
  have value : Numeral.value 10 (twoDigits number) = number :=
    Numeral.value_padded (by decide) (by decide) 2 number
  rw [length, value] at read
  rw [scanLoose, skipped, read]

theorem scanLooseMark_cons {mark : Char} (plain : isBlank mark = false) (rest : List Char) :
    scanLooseMark mark (mark :: rest) = some rest := by
  rw [scanLooseMark, List.dropWhile_cons_of_neg (by simp [plain]), scanMark, if_pos (by simp)]

/-- A year that four digits do not hold has a sign. -/
theorem yearText_signed (long : ¬ (0 ≤ year ∧ year ≤ 9999)) :
    yearText year = (if 0 ≤ year then '+' else '-') :: Numeral.padded 4 10 year.natAbs := by
  rw [yearText, if_neg long]
  split <;> rfl

/-- All digits behind a sign are taken for the year. -/
theorem scanYear_signed (year : Int) (digits : text.all isDigit = true) (present : text ≠ [])
    (ends : ∀ c ∈ rest.head?, isDigit c = false) :
    scanYear ((if 0 ≤ year then '+' else '-') :: (text ++ rest)) =
      some (if 0 ≤ year then (Numeral.value 10 text : Int) else -(Numeral.value 10 text : Int),
        rest) := by
  have plus : isBlank '+' = false := by decide
  have minus : isBlank '-' = false := by decide
  have read : scanNumber 1 none (text ++ rest) = some (Numeral.value 10 text, rest) :=
    scanNumber_run digits (List.length_pos_iff.mpr present) (by simp) ends
  rw [scanYear]
  split_ifs
  · simp only [List.dropWhile_cons_of_neg, plus, Bool.false_eq_true, not_false_eq_true, read,
      Option.map_some]
  · simp only [List.dropWhile_cons_of_neg, minus, Bool.false_eq_true, not_false_eq_true, read,
      Option.map_some]

/-- A year is read where it has a sign and what follows is no digit, or has four digits. -/
theorem scanYear_yearText
    (ends : (0 ≤ year ∧ year ≤ 9999) ∨ ∀ c ∈ rest.head?, isDigit c = false) :
    scanYear (yearText year ++ rest) = some (year, rest) := by
  by_cases four : 0 ≤ year ∧ year ≤ 9999
  · obtain ⟨c, more, found, digit, small, first⟩ := padded_eq_cons 4 year.toNat
    have length : (Numeral.padded 4 10 year.toNat).length = 4 :=
      Numeral.padded_length (by decide) (by decide) (by omega)
    have read : scanNumber 1 (some (Numeral.padded 4 10 year.toNat).length)
        (Numeral.padded 4 10 year.toNat ++ rest) =
          some (Numeral.value 10 (Numeral.padded 4 10 year.toNat), rest) :=
      scanNumber_width (Numeral.all_isDigit_padded 4 year.toNat) (by omega)
    have signs : ∀ digit < 10, Numeral.digitChar digit ≠ '-' ∧ Numeral.digitChar digit ≠ '+' := by
      decide
    have noMinus : c ≠ '-' := first ▸ (signs digit small).1
    have noPlus : c ≠ '+' := first ▸ (signs digit small).2
    rw [length, Numeral.value_padded (by decide) (by decide), found, List.cons_append] at read
    rw [scanYear, yearText, if_pos four, dropWhile_padded, found, List.cons_append]
    split
    · rename_i same
      exact absurd (List.cons.inj same).1 noMinus
    · rename_i same
      exact absurd (List.cons.inj same).1 noPlus
    · simp only [read, Option.map_some, Int.toNat_of_nonneg four.1]
  · have read := scanYear_signed year (Numeral.all_isDigit_padded 4 year.natAbs)
      (Numeral.padded_ne_nil 4 10 year.natAbs) (ends.resolve_left four)
    rw [Numeral.value_padded (by decide) (by decide)] at read
    rw [yearText_signed four, List.cons_append, read]
    congr
    split <;> omega

theorem scanYear_dash (year : Int) (rest : List Char) :
    scanYear (yearText year ++ '-' :: rest) = some (year, '-' :: rest) := by
  refine scanYear_yearText (.inr ?_)
  rintro c ⟨⟩
  decide

/-- The digits after the seconds are read as the nanoseconds that they were written for. -/
theorem scanSubsecond_subsecondText (small : number < 1000000000) :
    scanSubsecond (subsecondText number ++ 'Z' :: rest) = some (number, 'Z' :: rest) := by
  have point : ∀ width shown, 0 < width → width ≤ 9 → shown < 10 ^ width →
      scanSubsecond ('.' :: (Numeral.padded width 10 shown ++ 'Z' :: rest)) =
        some (shown * 10 ^ (9 - width), 'Z' :: rest) := by
    intro width shown positive bounded fits
    have length : (Numeral.padded width 10 shown).length = width :=
      Numeral.padded_length (by decide) positive fits
    have read : scanNumber 1 (some 9) (Numeral.padded width 10 shown ++ 'Z' :: rest) =
        some (Numeral.value 10 (Numeral.padded width 10 shown), 'Z' :: rest) := by
      refine scanNumber_run (Numeral.all_isDigit_padded width shown) (by omega) ?_ ?_
      · rintro limit ⟨⟩
        omega
      · rintro c ⟨⟩
        decide
    have letter : isDigit 'Z' = false := by decide
    rw [Numeral.value_padded (by decide) (by decide)] at read
    simp only [scanSubsecond, read, bind, Option.bind, pure, List.length_append, length,
      Nat.add_sub_cancel, List.dropWhile_cons_of_neg, letter, Bool.false_eq_true,
      not_false_eq_true]
    rfl
  rw [subsecondText]
  by_cases none : number = 0
  · rw [if_pos none, none]
    rfl
  by_cases milli : number % 1000000 = 0
  · rw [if_neg none, if_pos milli, List.append_assoc, List.cons_append, List.nil_append,
      point 3 _ (by decide) (by decide) (by omega)]
    congr
    omega
  by_cases micro : number % 1000 = 0
  · rw [if_neg none, if_neg milli, if_pos micro, List.append_assoc, List.cons_append,
      List.nil_append, point 6 _ (by decide) (by decide) (by omega)]
    congr
    omega
  · rw [if_neg none, if_neg milli, if_neg micro, List.append_assoc, List.cons_append,
      List.nil_append, point 9 _ (by decide) (by decide) small, Nat.sub_self, Nat.pow_zero,
      Nat.mul_one]

namespace Instant

theorem month_lt (instant : Instant) : instant.date.month < 100 :=
  Nat.lt_of_le_of_lt instant.date_isValid.2.1 (by decide)

theorem day_lt (instant : Instant) : instant.date.day < 100 := by
  have bounded := instant.date_isValid.2.2.2
  have longest : ∀ leap, ∀ month < 12, ((monthLengths leap)[month]?).getD 0 ≤ 31 := by decide
  have last := instant.date_isValid.2.1
  have first := instant.date_isValid.1
  have limit := longest (isLeap instant.date.year) (instant.date.month - 1) (by omega)
  omega

end Instant

theorem parse?_rfc3339 (instant : Instant) : parse? (rfc3339 instant) = some instant := by
  have dash : isBlank '-' = false := by decide
  have colon : isBlank ':' = false := by decide
  have zone : scanZone ['Z'] = some (0, []) := by decide
  have blank : (['Z'] : List Char).dropWhile isBlank = ['Z'] := by decide
  have hour := instant.hour_lt
  have minute := instant.minute_lt
  have second := instant.second_le
  have mark : ∀ rest, scanTimeMark ('T' :: rest) = some rest := fun _ => rfl
  simp only [parse?, rfc3339, rfc3339With, String.toList_ofList, dateText, clockText,
    List.append_assoc, List.cons_append, List.nil_append, scanYear_dash, bind, Option.bind,
    scanLooseMark_cons dash, scanLooseMark_cons colon, scanLoose_twoDigits instant.month_lt,
    scanLoose_twoDigits instant.day_lt, mark, scanLoose_twoDigits (by omega : instant.hour < 100),
    scanLoose_twoDigits (by omega : instant.minute < 100),
    scanLoose_twoDigits (by omega : instant.second < 100),
    scanSubsecond_subsecondText instant.subsecond_lt, blank, zone]
  rw [if_pos (by rfl), atOffset?, if_pos (by decide)]
  exact instant.ofParts?_self

/-- The stamp of a whole second in a year of four digits is read back. -/
theorem parseStamp?_stampText (instant : Instant) (whole : instant.nanos = 0)
    (four : 0 ≤ instant.date.year ∧ instant.date.year ≤ 9999) :
    parseStamp? (stampText instant) = some instant := by
  have hour := instant.hour_lt
  have minute := instant.minute_lt
  have subsecond : instant.subsecond = 0 := by
    rw [Instant.subsecond, whole]
  have second : instant.second < 60 := by
    have cases := instant.second_cases
    omega
  have mark : ∀ rest, scanMark 'T' ('T' :: rest) = some rest := fun _ => rfl
  have last : scanMark 'Z' ['Z'] = some [] := by decide
  have self := instant.ofParts?_self
  rw [subsecond] at self
  simp only [parseStamp?, stampText, List.append_assoc, List.cons_append, List.nil_append,
    scanYear_yearText (.inl four), bind, Option.bind, scanLoose_twoDigits instant.month_lt,
    scanLoose_twoDigits instant.day_lt, mark, scanLoose_twoDigits (by omega : instant.hour < 100),
    scanLoose_twoDigits (by omega : instant.minute < 100),
    scanLoose_twoDigits (by omega : instant.second < 100), last, List.isEmpty_nil, ↓reduceIte]
  exact self

/-- The digits of a year with a sign run on into those of the month and of the day. All of them are
taken for the year, and none are left for the month. -/
theorem parseStamp?_stampText_signed (instant : Instant)
    (long : ¬ (0 ≤ instant.date.year ∧ instant.date.year ≤ 9999)) :
    parseStamp? (stampText instant) = none := by
  let run := Numeral.padded 4 10 instant.date.year.natAbs ++
    (twoDigits instant.date.month ++ twoDigits instant.date.day)
  let clock := twoDigits instant.hour ++ (twoDigits instant.minute ++
    (twoDigits instant.second ++ ['Z']))
  have stamp : stampText instant =
      (if 0 ≤ instant.date.year then '+' else '-') :: (run ++ 'T' :: clock) := by
    simp only [stampText, yearText_signed long, run, clock, List.append_assoc, List.cons_append,
      List.nil_append]
  have digits : run.all isDigit = true := by
    simp only [run, twoDigits, List.all_append, Numeral.all_isDigit_padded, Bool.and_self]
  have present : run ≠ [] :=
    List.append_ne_nil_of_left_ne_nil (Numeral.padded_ne_nil 4 10 _) _
  have ends : ∀ c ∈ ('T' :: clock).head?, isDigit c = false := by
    rintro c ⟨⟩
    decide
  have month : scanLoose 2 ('T' :: clock) = none := rfl
  simp only [parseStamp?, stamp, scanYear_signed _ digits present ends, bind, Option.bind, month]

end QueryJournal.Time
