namespace QueryJournal.Time

/-!
The proleptic Gregorian calendar. Days are counted from the first of January of the year 1970;
`dayNumber` and `Date.ofDay` are inverse on valid dates.
-/

/-- A calendar date; the year before year 1 is year 0. -/
structure Date where
  year : Int
  month : Nat
  day : Nat
  deriving DecidableEq, Repr

/-- Every fourth year is a leap year, except the centuries that four hundred does not divide. -/
def isLeap (year : Int) : Bool :=
  year % 4 == 0 && (year % 100 != 0 || year % 400 == 0)

def monthLengths (leap : Bool) : List Nat :=
  [31, if leap then 29 else 28, 31, 30, 31, 30, 31, 31, 30, 31, 30, 31]

def totalDays : List Nat → Nat
  | [] => 0
  | length :: rest => length + totalDays rest

/-- The number of days from the first of January of year 0 to that of another year. -/
def daysBeforeYear (year : Int) : Int :=
  365 * year + (year + 3) / 4 - (year + 99) / 100 + (year + 399) / 400

/-- The day on which the count of days starts. -/
def epochDay : Int :=
  daysBeforeYear 1970

namespace Date

def IsValid (date : Date) : Prop :=
  1 ≤ date.month ∧ date.month ≤ 12 ∧
    1 ≤ date.day ∧ date.day ≤ ((monthLengths (isLeap date.year))[date.month - 1]?).getD 0

instance (date : Date) : Decidable date.IsValid := by
  unfold IsValid
  infer_instance

def dayNumber (date : Date) : Int :=
  daysBeforeYear date.year - epochDay +
    totalDays ((monthLengths (isLeap date.year)).take (date.month - 1)) + ((date.day : Int) - 1)

/-- The year in which a day counted from year 0 lies. Every four hundred years have the same
number of days, which puts the first guess at most one year off. -/
def yearOf (day : Int) : Int :=
  let guess := day * 400 / 146097
  if day < daysBeforeYear guess then guess - 1
  else if daysBeforeYear (guess + 1) ≤ day then guess + 1
  else guess

/-- The month, counted from `month`, and the day of the month of a day counted from zero. -/
def splitMonths (month : Nat) : List Nat → Nat → Nat × Nat
  | [], day => (month, day + 1)
  | length :: rest, day =>
    if day < length then (month, day + 1) else splitMonths (month + 1) rest (day - length)

def ofDay (number : Int) : Date :=
  let day := number + epochDay
  let year := yearOf day
  let (month, day) := splitMonths 1 (monthLengths (isLeap year)) (day - daysBeforeYear year).toNat
  { year, month, day }

end Date

end QueryJournal.Time
