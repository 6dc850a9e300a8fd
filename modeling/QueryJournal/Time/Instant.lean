import QueryJournal.Time.Calendar

namespace QueryJournal.Time

/-!
Points in universal time, to the nanosecond. A leap second is the second of nanoseconds after
the last second of a minute, so it lies between that second and the next one in the order.
-/

def firstYear : Int := -262143

/-- The last year that instants cover. -/
def lastYear : Int := 262142

def firstSecond : Int :=
  ({ year := firstYear, month := 1, day := 1 } : Date).dayNumber * 86400

/-- The last second that instants cover. -/
def lastSecond : Int :=
  ({ year := lastYear, month := 12, day := 31 } : Date).dayNumber * 86400 + 86399

/-- The number of nanoseconds that a second may have: two seconds' worth where a leap second
may follow. -/
def nanosLimit (seconds : Int) : Nat :=
  if seconds % 60 = 59 then 2000000000 else 1000000000

/-- A point in time: whole seconds since the start of 1970 and the nanoseconds on top. -/
structure Instant where
  seconds : Int
  nanos : Nat
  first_le : firstSecond ≤ seconds
  le_last : seconds ≤ lastSecond
  nanos_lt : nanos < nanosLimit seconds
  deriving DecidableEq

namespace Instant

def of? (seconds : Int) (nanos : Nat) : Option Instant :=
  if inside : firstSecond ≤ seconds ∧ seconds ≤ lastSecond ∧ nanos < nanosLimit seconds then
    some { seconds, nanos, first_le := inside.1, le_last := inside.2.1, nanos_lt := inside.2.2 }
  else none

def epoch : Instant :=
  { seconds := 0, nanos := 0, first_le := by decide, le_last := by decide, nanos_lt := by decide }

instance : Inhabited Instant := ⟨epoch⟩

def isBefore (left right : Instant) : Bool :=
  left.seconds < right.seconds || (left.seconds == right.seconds && left.nanos < right.nanos)

def truncated (instant : Instant) : Instant :=
  { instant with
    nanos := 0
    nanos_lt := by unfold nanosLimit; split <;> omega }

def date (instant : Instant) : Date :=
  Date.ofDay (instant.seconds / 86400)

def daySecond (instant : Instant) : Nat :=
  (instant.seconds % 86400).toNat

def hour (instant : Instant) : Nat :=
  instant.daySecond / 3600

def minute (instant : Instant) : Nat :=
  instant.daySecond / 60 % 60

/-- The second of the minute, which is 60 in a leap second. -/
def second (instant : Instant) : Nat :=
  instant.daySecond % 60 + instant.nanos / 1000000000

def subsecond (instant : Instant) : Nat :=
  instant.nanos % 1000000000

/-- The instant of a date and a time of day at an offset from universal time, in seconds. The
sixtieth second of a minute is a leap second. Fails where a part is out of its range. -/
def ofParts? (date : Date) (hour minute second nanos : Nat) (offset : Int) : Option Instant :=
  if firstYear ≤ date.year ∧ date.year ≤ lastYear ∧ date.IsValid ∧ hour < 24 ∧ minute < 60 ∧
      second ≤ 60 ∧ nanos < 1000000000 then
    let (second, nanos) := if second = 60 then (59, nanos + 1000000000) else (second, nanos)
    of? (date.dayNumber * 86400 + hour * 3600 + minute * 60 + second - offset) nanos
  else none

end Instant

/-- A span of time: whole seconds and the nanoseconds on top. -/
structure Span where
  seconds : UInt64
  nanos : Nat
  nanos_lt : nanos < 1000000000
  deriving DecidableEq

namespace Span

def zero : Span :=
  { seconds := 0, nanos := 0, nanos_lt := by decide }

instance : Inhabited Span := ⟨zero⟩

/-- The span of some seconds and nanoseconds, where a billion nanoseconds and more are carried
over; fails where the seconds no longer fit. -/
def carried? (seconds nanos : Nat) : Option Span :=
  let total := seconds + nanos / 1000000000
  if total < UInt64.size then
    some
      { seconds := UInt64.ofNat total
        nanos := nanos % 1000000000
        nanos_lt := Nat.mod_lt _ (by decide) }
  else none

end Span

end QueryJournal.Time
