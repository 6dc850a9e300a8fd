import QueryJournal.Document.Value
import QueryJournal.Time.Calendar
import QueryJournal.Toml.Text

namespace QueryJournal.Toml

open QueryJournal.Document
open QueryJournal.Text
open QueryJournal.Time (Date)

/-!
The values of TOML that are no list and no table. No schema holds a number with a fraction, so of
such a number only the form is checked. A date or a time is a table with one member of a reserved
name, which a schema that knows nothing of dates passes over.
-/

/-!
### Numbers
-/

/-- Reads a digit of a class, which may have one underscore before it. -/
def digitPiece? (cls : Char → Bool) : Scan Char
  | '_' :: c :: rest => if cls c then some (c, rest) else none
  | c :: rest => if cls c then some (c, rest) else none
  | [] => none

/-- Reads digits of a class, of which the first has no underscore before it. -/
def digits? (cls : Char → Bool) : Scan (List Char)
  | [] => none
  | c :: rest =>
    if cls c then
      let (others, rest) := many (digitPiece? cls) rest
      some (c :: others, rest)
    else none

/-- Reads a sign: whether it is a minus, and the rest. Without a sign a number is positive. -/
def sign : List Char → Bool × List Char
  | '-' :: rest => (true, rest)
  | '+' :: rest => (false, rest)
  | rest => (false, rest)

/-- Reads whole decimal digits, which start with zero only if zero is all of them. -/
def whole? : Scan (List Char)
  | '0' :: rest => some (['0'], rest)
  | text => digits? Numeral.isDigit text

def integerOf? (negative : Bool) (magnitude : Nat) : Option Value :=
  let value : Int := if negative then -magnitude else magnitude
  if Int64.minValue.toInt ≤ value ∧ value ≤ Int64.maxValue.toInt then some (.integer value)
  else none

def radixInteger? (radix : Nat) (text : List Char) : Option (Value × List Char) := do
  let (digits, rest) ← digits? (fun c => (Numeral.digitIn? radix c).isSome) text
  pure (← integerOf? false (Numeral.value radix digits), rest)

def integer? (text : List Char) : Option (Value × List Char) :=
  match text with
  | '0' :: 'x' :: rest => radixInteger? 16 rest
  | '0' :: 'o' :: rest => radixInteger? 8 rest
  | '0' :: 'b' :: rest => radixInteger? 2 rest
  | _ => do
    let (negative, rest) := sign text
    let (digits, rest) ← whole? rest
    pure (← integerOf? negative (Numeral.value 10 digits), rest)

def exponent? : Scan Int
  | [] => none
  | c :: rest =>
    if c == 'e' || c == 'E' then
      let (negative, rest) := sign rest
      (digits? Numeral.isDigit rest).map fun (digits, rest) =>
        let size : Int := Numeral.value 10 digits
        (if negative then -size else size, rest)
    else none

/-- Reads what makes a number one with a fraction: digits after a point and an exponent, at least
one of the two. -/
def fraction? (text : List Char) : Option ((List Char × Int) × List Char) :=
  match skip? '.' text with
  | none => (exponent? text).map fun (exponent, rest) => (([], exponent), rest)
  | some rest =>
    (digits? Numeral.isDigit rest).map fun (digits, rest) =>
      match exponent? rest with
      | some (exponent, rest) => ((digits, exponent), rest)
      | none => ((digits, 0), rest)

/-- The least number that is nearer to the next power of two than to the greatest number of double
precision. -/
def doubleLimit : Nat :=
  (1 <<< 1024) - (1 <<< 970)

/-- Whether digits with a power of ten are less than the limit of double precision. Numbers of
fewer than 309 places always are, and numbers of more places never. -/
def fitsDouble (magnitude : Nat) (exponent : Int) : Bool :=
  let places := (Numeral.decimal magnitude).length + exponent
  magnitude = 0 || places < 309 ||
    (places = 309 &&
      (if 0 ≤ exponent then magnitude * Nat.pow 10 exponent.toNat < doubleLimit
        else magnitude < doubleLimit * Nat.pow 10 (-exponent).toNat))

/-- Reads a number with a fraction. A positive one has to fit double precision. -/
def fractional? (text : List Char) : Option (Value × List Char) := do
  let (negative, rest) := sign text
  let (digits, rest) ← whole? rest
  let ((more, exponent), rest) ← fraction? rest
  let magnitude := Numeral.value 10 (digits ++ more)
  if negative || fitsDouble magnitude (exponent - more.length) then pure (.unread, rest) else none

def specialNumber? (text : List Char) : Option (Value × List Char) :=
  let rest := (sign text).2
  let after? := match strip? ['i', 'n', 'f'] rest with
    | some rest => some rest
    | none => strip? ['n', 'a', 'n'] rest
  after?.map fun rest => (.unread, rest)

/-!
### Dates and times
-/

/-- Reads a number of two digits that is at most a bound. -/
def twoDigits? (greatest : Nat) (text : List Char) : Option ((List Char × Nat) × List Char) := do
  let (digits, rest) ← exactly? 2 Numeral.isDigit text
  let number := Numeral.value 10 digits
  if number ≤ greatest then pure ((digits, number), rest) else none

def date? (text : List Char) : Option (List Char × List Char) := do
  let (year, rest) ← exactly? 4 Numeral.isDigit text
  let ((month, monthNumber), rest) ← (skip? '-' rest).bind (twoDigits? 12)
  let ((day, dayNumber), rest) ← (skip? '-' rest).bind (twoDigits? 31)
  let date : Date :=
    { year := Numeral.value 10 year, month := monthNumber, day := dayNumber }
  if date.IsValid then pure (year ++ ['-'] ++ month ++ ['-'] ++ day, rest) else none

/-- Reads what follows the seconds: nothing, or a point and digits, of which nine at most count.
Zeros at the end are left out. -/
def subsecond (text : List Char) : List Char × List Char :=
  match (skip? '.' text).map (run Numeral.isDigit) with
  | some (digit :: digits, rest) =>
    let shown := dropEnd (· == '0') ((digit :: digits).take 9)
    (if shown.isEmpty then [] else '.' :: shown, rest)
  | _ => ([], text)

def time? (text : List Char) : Option (List Char × List Char) := do
  let ((hour, _), rest) ← twoDigits? 23 text
  let ((minute, _), rest) ← (skip? ':' rest).bind (twoDigits? 59)
  let ((second, _), rest) ← (skip? ':' rest).bind (twoDigits? 60)
  let (after, rest) := subsecond rest
  pure (hour ++ [':'] ++ minute ++ [':'] ++ second ++ after, rest)

def offset? (text : List Char) : Option (List Char × List Char) :=
  match text with
  | [] => none
  | c :: rest =>
    if c == 'Z' || c == 'z' then some (['Z'], rest)
    else if c == '+' || c == '-' then do
      let ((hours, hourNumber), rest) ← twoDigits? 23 rest
      let ((minutes, minuteNumber), rest) ← (skip? ':' rest).bind (twoDigits? 59)
      let mark := if hourNumber = 0 ∧ minuteNumber = 0 then '+' else c
      pure ([mark] ++ hours ++ [':'] ++ minutes, rest)
    else none

def timeAfterDate? (text : List Char) : Option (List Char × List Char) :=
  match text with
  | [] => none
  | c :: rest =>
    if c == 'T' || c == 't' || c == ' ' then
      (time? rest).map fun (time, rest) =>
        match offset? rest with
        | some (offset, rest) => ('T' :: time ++ offset, rest)
        | none => ('T' :: time, rest)
    else none

def moment? (text : List Char) : Option (List Char × List Char) :=
  match date? text with
  | some (date, rest) =>
    match timeAfterDate? rest with
    | some (time, rest) => some (date ++ time, rest)
    | none => some (date, rest)
  | none => time? text

/-- The reserved name under which the text of a date or a time is found. -/
def momentName : String := "$__toml_private_datetime"

def momentValue? (text : List Char) : Option (Value × List Char) :=
  (moment? text).map fun (moment, rest) =>
    (.table [(momentName, .text (String.ofList moment))], rest)

/-!
### All of them
-/

def word? (word : List Char) (value : Value) (text : List Char) : Option (Value × List Char) :=
  (strip? word text).map fun rest => (value, rest)

def numeric? (text : List Char) : Option (Value × List Char) :=
  momentValue? text <|> fractional? text <|> specialNumber? text <|> integer? text

def scalar? (text : List Char) : Option (Value × List Char) :=
  match text with
  | [] => none
  | c :: _ =>
    if c == '"' || c == '\'' then
      (string? text).map fun (chars, rest) => (.text (String.ofList chars), rest)
    else if c == '+' || c == '-' || Numeral.isDigit c then numeric? text
    else
      word? ['t', 'r', 'u', 'e'] (.bool true) text <|>
        word? ['f', 'a', 'l', 's', 'e'] (.bool false) text <|>
        specialNumber? text

end QueryJournal.Toml
