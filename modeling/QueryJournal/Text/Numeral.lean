namespace QueryJournal.Numeral

/-!
Positional numerals over lists of characters. `digits` writes the shortest numeral of a number
in a radix up to sixteen, lower case; `value` reads a run of digit characters.
-/

def digitChar (digit : Nat) : Char :=
  Char.ofNat (if digit < 10 then 48 + digit else 87 + digit)

def digitValue? (c : Char) : Option Nat :=
  if '0' ≤ c ∧ c ≤ '9' then some (c.toNat - 48)
  else if 'a' ≤ c ∧ c ≤ 'f' then some (c.toNat - 87)
  else if 'A' ≤ c ∧ c ≤ 'F' then some (c.toNat - 55)
  else none

def digitIn? (radix : Nat) (c : Char) : Option Nat :=
  (digitValue? c).filter (· < radix)

/-- The shortest numeral, most significant digit first; zero is one digit long. -/
def digits (radix number : Nat) : List Char :=
  if number < radix ∨ radix < 2 then [digitChar number]
  else digits radix (number / radix) ++ [digitChar (number % radix)]
termination_by number
decreasing_by
  rename_i large
  exact Nat.div_lt_self (by omega) (by omega)

def decimal (number : Nat) : List Char :=
  digits 10 number

def padded (width radix number : Nat) : List Char :=
  let text := digits radix number
  List.replicate (width - text.length) '0' ++ text

def signed (number : Int) : List Char :=
  match number with
  | .ofNat n => decimal n
  | .negSucc n => '-' :: decimal (n + 1)

/-- The value of a run of digits; a character that is no digit counts as zero. -/
def value (radix : Nat) (text : List Char) : Nat :=
  text.foldl (fun total c => total * radix + (digitValue? c).getD 0) 0

def isDigit (c : Char) : Bool :=
  '0' ≤ c && c ≤ '9'

/-- Reads a text that consists of decimal digits and of at least one. -/
def natural? (text : List Char) : Option Nat :=
  if text ≠ [] ∧ text.all isDigit then some (value 10 text) else none

def wordLimit : Nat := UInt64.size

def word? (text : List Char) : Option Nat :=
  let digits := match text with
    | '+' :: rest => rest
    | digits => digits
  (natural? digits).filter (· < wordLimit)

/-- A numeral without its sign, if it has one. -/
def unsigned : List Char → List Char
  | '+' :: rest => rest
  | '-' :: rest => rest
  | digits => digits

/-- Whether a text is an exponent: a letter and a whole number with an optional sign. -/
def isExponent : List Char → Bool
  | 'e' :: rest => (natural? (unsigned rest)).isSome
  | 'E' :: rest => (natural? (unsigned rest)).isSome
  | _ => false

/-- Whether a text is digits with at most one point among them, and an optional exponent. -/
def isDecimal (text : List Char) : Bool :=
  let whole := text.takeWhile isDigit
  let (fraction, rest) := match text.dropWhile isDigit with
    | '.' :: rest => (rest.takeWhile isDigit, rest.dropWhile isDigit)
    | rest => ([], rest)
  !(whole.isEmpty && fraction.isEmpty) && (rest.isEmpty || isExponent rest)

/-- Whether a text is a real number, infinite or undefined, with an optional sign. -/
def isReal (text : List Char) : Bool :=
  let magnitude := unsigned text
  isDecimal magnitude ||
    ["inf", "infinity", "nan"].any fun name => name.toList == magnitude.map Char.toLower

end QueryJournal.Numeral
