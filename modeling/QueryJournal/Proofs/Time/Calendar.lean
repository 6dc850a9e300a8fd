import QueryJournal.Time.Calendar

namespace QueryJournal.Time

/-!
The date of a day number is valid and has that number. A year is found by its first day, a month by
the days of the months before it.
-/

/-- The first day of a year differs from that of the year before by the length of that year. -/
theorem daysBeforeYear_succ (year : Int) :
    daysBeforeYear (year + 1) = daysBeforeYear year + totalDays (monthLengths (isLeap year)) := by
  have length : (totalDays (monthLengths (isLeap year)) : Int) =
      if isLeap year then 366 else 365 := by
    cases isLeap year <;> rfl
  rw [length]
  by_cases leap : isLeap year = true
  · rw [if_pos leap]
    simp only [isLeap, Bool.and_eq_true, Bool.or_eq_true, beq_iff_eq, bne_iff_ne] at leap
    simp only [daysBeforeYear]
    omega
  · rw [if_neg leap]
    simp only [isLeap, Bool.and_eq_true, Bool.or_eq_true, beq_iff_eq, bne_iff_ne] at leap
    simp only [daysBeforeYear]
    omega

theorem daysBeforeYear_le {earlier later : Int} (order : earlier ≤ later) :
    daysBeforeYear earlier ≤ daysBeforeYear later := by
  rcases Int.lt_or_eq_of_le order with before | rfl
  · simp only [daysBeforeYear]
    omega
  · exact Int.le_refl _

namespace Date

theorem yearOf_bounds (day : Int) :
    daysBeforeYear (yearOf day) ≤ day ∧ day < daysBeforeYear (yearOf day + 1) := by
  have lower : daysBeforeYear (day * 400 / 146097 - 1) ≤ day := by
    simp only [daysBeforeYear]
    omega
  have upper : day < daysBeforeYear (day * 400 / 146097 + 1 + 1) := by
    simp only [daysBeforeYear]
    omega
  simp only [yearOf]
  split
  · rename_i early
    exact ⟨lower, by rwa [Int.sub_add_cancel]⟩
  · split
    · rename_i late
      exact ⟨late, upper⟩
    · rename_i early late
      exact ⟨Int.not_lt.mp early, Int.not_le.mp late⟩

theorem splitMonths_spec (month : Nat) (lengths : List Nat) (day : Nat) 
    (inside : day < totalDays lengths) :
    ∃ before, (splitMonths month lengths day).1 = month + before ∧ before < lengths.length ∧
      1 ≤ (splitMonths month lengths day).2 ∧
      (splitMonths month lengths day).2 ≤ (lengths[before]?).getD 0 ∧
      totalDays (lengths.take before) + (splitMonths month lengths day).2 = day + 1 := by
  induction lengths generalizing month day with
  | nil => simp [totalDays] at inside
  | cons length rest ih =>
      by_cases here : day < length
      · refine ⟨0, ?_⟩
        simp only [splitMonths, here, ↓reduceIte, List.length_cons, List.getElem?_cons_zero,
          Option.getD_some, List.take_zero, totalDays]
        omega
      · have later : day - length < totalDays rest := by
          rw [totalDays] at inside
          omega
        obtain ⟨before, number, within, positive, bounded, total⟩ := ih (month + 1) _ later
        refine ⟨before + 1, ?_⟩
        simp only [splitMonths, here, ↓reduceIte, List.length_cons, List.getElem?_cons_succ,
          List.take_succ_cons, totalDays]
        omega

private theorem monthLengths_length (leap : Bool) : (monthLengths leap).length = 12 := by
  cases leap <;> rfl

theorem ofDay_spec (number : Int) : (ofDay number).IsValid ∧ (ofDay number).dayNumber = number := by
  obtain ⟨lower, upper⟩ := yearOf_bounds (number + epochDay)
  rw [daysBeforeYear_succ] at upper
  have inside : (number + epochDay - daysBeforeYear (yearOf (number + epochDay))).toNat <
      totalDays (monthLengths (isLeap (yearOf (number + epochDay)))) := by
    omega
  obtain ⟨before, month, bounded, positive, short, total⟩ := splitMonths_spec 1 _ _ inside
  rw [monthLengths_length] at bounded
  have index : 1 + before - 1 = before := by omega
  constructor
  · simp only [IsValid, ofDay, month, index]
    omega
  · simp only [dayNumber, ofDay, month, index]
    omega

/-- A day between the ends of two years lies in a year between them. -/
theorem yearOf_between {day first last : Int} (lower : daysBeforeYear first ≤ day)
    (upper : day < daysBeforeYear (last + 1)) : first ≤ yearOf day ∧ yearOf day ≤ last := by
  obtain ⟨start, stop⟩ := yearOf_bounds day
  constructor
  · rcases Int.lt_or_le (yearOf day) first with early | inside
    · have order := daysBeforeYear_le (Int.add_one_le_of_lt early)
      omega
    · exact inside
  · rcases Int.lt_or_le last (yearOf day) with late | inside
    · have order := daysBeforeYear_le (Int.add_one_le_of_lt late)
      omega
    · exact inside

end Date

end QueryJournal.Time
