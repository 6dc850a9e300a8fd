import QueryJournal.Text.Blank
import QueryJournal.Text.Numeral
import QueryJournal.Time.Instant

namespace QueryJournal.Time

open QueryJournal.Text (isBlank strip?)

/-!
Instants as text, in the form of RFC 3339 and in the form of file names. Years outside of 0 to
9999 carry a sign. Reading is more tolerant than writing: it takes blanks between the parts, short
numbers, signed years, lower-case marks and any offset of less than a day.
-/

def twoDigits (number : Nat) : List Char :=
  Numeral.padded 2 10 number

/-- A year: four digits, with a sign where four digits do not hold it. -/
def yearText (year : Int) : List Char :=
  if 0 ≤ year ∧ year ≤ 9999 then Numeral.padded 4 10 year.toNat
  else (if 0 ≤ year then ['+'] else ['-']) ++ Numeral.padded 4 10 year.natAbs

def dateText (date : Date) : List Char :=
  yearText date.year ++ ['-'] ++ twoDigits date.month ++ ['-'] ++ twoDigits date.day

def clockText (instant : Instant) : List Char :=
  twoDigits instant.hour ++ [':'] ++ twoDigits instant.minute ++ [':'] ++
    twoDigits instant.second

/-- The part after the seconds: nothing, or three, six or nine digits, as few as hold it. -/
def subsecondText (nanos : Nat) : List Char :=
  if nanos = 0 then []
  else if nanos % 1000000 = 0 then ['.'] ++ Numeral.padded 3 10 (nanos / 1000000)
  else if nanos % 1000 = 0 then ['.'] ++ Numeral.padded 6 10 (nanos / 1000)
  else ['.'] ++ Numeral.padded 9 10 nanos

def rfc3339With (zone : List Char) (instant : Instant) : String :=
  String.ofList (dateText instant.date ++ ['T'] ++ clockText instant ++
    subsecondText instant.subsecond ++ zone)

/-- The RFC 3339 form that ends in `Z`. -/
def rfc3339 (instant : Instant) : String :=
  rfc3339With ['Z'] instant

def rfc3339Offset (instant : Instant) : String :=
  rfc3339With ['+', '0', '0', ':', '0', '0'] instant

/-- Date and time to the second, in the form that ends in `Z`. -/
def secondText (instant : Instant) : String :=
  String.ofList (dateText instant.date ++ ['T'] ++ clockText instant ++ ['Z'])

def displayText (instant : Instant) : String :=
  String.ofList (dateText instant.date ++ [' '] ++ clockText instant ++ ['.'] ++
    Numeral.padded 3 10 (instant.subsecond / 1000000))

/-- Date and time without separators, for file names. -/
def stampText (instant : Instant) : List Char :=
  yearText instant.date.year ++ twoDigits instant.date.month ++ twoDigits instant.date.day ++
    ['T'] ++ twoDigits instant.hour ++ twoDigits instant.minute ++ twoDigits instant.second ++
    ['Z']

/-!
### Reading
-/

/-- The number at the start of a text, of at least `least` digits. At most `most` digits are
looked at. -/
def scanNumber (least : Nat) (most : Option Nat) (text : List Char) : Option (Nat × List Char) :=
  let window := match most with
    | some most => text.take most
    | none => text
  let run := window.takeWhile Numeral.isDigit
  if run.length < least then none else some (Numeral.value 10 run, text.drop run.length)

/-- A number of up to `most` digits after blanks. -/
def scanLoose (most : Nat) (text : List Char) : Option (Nat × List Char) :=
  scanNumber 1 (some most) (text.dropWhile isBlank)

/-- A year after blanks: with a sign as many digits as follow, without one up to four. -/
def scanYear (text : List Char) : Option (Int × List Char) :=
  match text.dropWhile isBlank with
  | '-' :: rest => (scanNumber 1 none rest).map fun (year, rest) => (-(year : Int), rest)
  | '+' :: rest => (scanNumber 1 none rest).map fun (year, rest) => ((year : Int), rest)
  | rest => (scanNumber 1 (some 4) rest).map fun (year, rest) => ((year : Int), rest)

/-- The digits after the decimal point as nanoseconds; digits after the ninth are passed over.
Without a point there are none. -/
def scanSubsecond : List Char → Option (Nat × List Char)
  | '.' :: rest => do
    let (number, after) ← scanNumber 1 (some 9) rest
    let digits := rest.length - after.length
    pure (number * Nat.pow 10 (9 - digits), after.dropWhile Numeral.isDigit)
  | text => some (0, text)

/-- An offset from universal time in seconds: `Z`, or a sign, two digits of hours, what
`separator` takes away, and two digits of minutes. -/
def scanOffset (separator : List Char → Option (List Char)) : List Char → Option (Int × List Char)
  | [] => none
  | c :: rest =>
    if c == 'Z' || c == 'z' then some (0, rest)
    else if c == '+' || c == '-' || c == '\u2212' then do
      let (hours, rest) ← scanNumber 2 (some 2) rest
      let rest ← separator rest
      let (minutes, rest) ← scanNumber 2 (some 2) rest
      if minutes < 60 then
        let offset : Int := hours * 3600 + minutes * 60
        pure (if c == '+' then offset else -offset, rest)
      else none
    else none

def scanMark (mark : Char) : List Char → Option (List Char)
  | c :: rest => if c == mark then some rest else none
  | [] => none

def scanTimeMark : List Char → Option (List Char)
  | c :: rest => if c == 'T' || c == 't' || c == ' ' then some rest else none
  | [] => none

def atOffset? (date : Date) (hour minute second nanos : Nat) (offset : Int) : Option Instant :=
  if -86400 < offset ∧ offset < 86400 then
    Instant.ofParts? date hour minute second nanos offset
  else none

def scanLooseMark (mark : Char) (text : List Char) : Option (List Char) :=
  scanMark mark (text.dropWhile isBlank)

def scanZone (text : List Char) : Option (Int × List Char) :=
  if Text.eqIgnoringCase (text.take 3) ['U', 'T', 'C'] then some (0, text.drop 3)
  else scanOffset (fun rest => some (rest.dropWhile fun c => c == ':' || isBlank c)) text

def parse? (text : String) : Option Instant := do
  let (year, rest) ← scanYear text.toList
  let (month, rest) ← (scanLooseMark '-' rest).bind (scanLoose 2)
  let (day, rest) ← (scanLooseMark '-' rest).bind (scanLoose 2)
  let (hour, rest) ← (scanTimeMark rest).bind (scanLoose 2)
  let (minute, rest) ← (scanLooseMark ':' rest).bind (scanLoose 2)
  let (second, rest) ← (scanLooseMark ':' rest).bind (scanLoose 2)
  let (nanos, rest) ← scanSubsecond rest
  let (offset, rest) ← scanZone (rest.dropWhile isBlank)
  if rest.all isBlank then atOffset? { year, month, day } hour minute second nanos offset
  else none

def parseStamp? (text : List Char) : Option Instant := do
  let (year, rest) ← scanYear text
  let (month, rest) ← scanLoose 2 rest
  let (day, rest) ← scanLoose 2 rest
  let (hour, rest) ← (scanMark 'T' rest).bind (scanLoose 2)
  let (minute, rest) ← scanLoose 2 rest
  let (second, rest) ← scanLoose 2 rest
  let rest ← scanMark 'Z' rest
  if rest.isEmpty then Instant.ofParts? { year, month, day } hour minute second 0 0 else none

end QueryJournal.Time
