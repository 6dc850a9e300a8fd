import QueryJournal.Address.Basic
import QueryJournal.Text.Blank
import QueryJournal.Text.Numeral

namespace QueryJournal.Address

open QueryJournal.Text (strip?)

/-!
Addresses as text. A version 6 address is written in its shortest form: the longest run of at
least two zero groups, the first of several, becomes `::`. An address that carries a version 4
address is written with that address at its end.
-/

def dotted (a b c d : UInt8) : List Char :=
  Numeral.decimal a.toNat ++ ['.'] ++ Numeral.decimal b.toNat ++ ['.'] ++
    Numeral.decimal c.toNat ++ ['.'] ++ Numeral.decimal d.toNat

def zeroRun (groups : List UInt16) : Nat :=
  (groups.takeWhile (· == 0)).length

/-- The start and the length of the longest run of zeros; `best` is the best one before
position `start`. -/
def longestZeroRun (start : Nat) (best : Nat × Nat) : List UInt16 → Nat × Nat
  | [] => best
  | group :: rest =>
    let length := zeroRun (group :: rest)
    longestZeroRun (start + 1) (if best.2 < length then (start, length) else best) rest

def joined (groups : List UInt16) : List Char :=
  [':'].intercalate (groups.map fun group => Numeral.digits 16 group.toNat)

def highByte (group : UInt16) : UInt8 :=
  UInt8.ofNat (group.toNat / 256)

def lowByte (group : UInt16) : UInt8 :=
  UInt8.ofNat (group.toNat % 256)

def groupsText (groups : List UInt16) : List Char :=
  match groups with
  | [0, 0, 0, 0, 0, 0xFFFF, high, low] =>
    [':', ':', 'f', 'f', 'f', 'f', ':'] ++
      dotted (highByte high) (lowByte high) (highByte low) (lowByte low)
  | _ =>
    let (start, length) := longestZeroRun 0 (0, 0) groups
    if 2 ≤ length then
      joined (groups.take start) ++ [':', ':'] ++ joined (groups.drop (start + length))
    else joined groups

def chars : Address → List Char
  | .v4 a b c d => dotted a b c d
  | .v6 groups => groupsText groups.toList

def text (address : Address) : String :=
  String.ofList address.chars

/-!
### Reading
-/

/-- A decimal number below 256 without leading zeros. -/
def octet? (text : List Char) : Option UInt8 :=
  if text.length ≤ 3 ∧ (text.head? ≠ some '0' ∨ text = ['0']) then
    (Numeral.natural? text).bind fun value =>
      if value < 256 then some (UInt8.ofNat value) else none
  else none

def dotted? (text : List Char) : Option (UInt8 × UInt8 × UInt8 × UInt8) :=
  match text.splitOn '.' with
  | [a, b, c, d] => do pure (← octet? a, ← octet? b, ← octet? c, ← octet? d)
  | _ => none

def group? (text : List Char) : Option UInt16 :=
  if text ≠ [] ∧ text.length ≤ 4 ∧ text.all (fun c => (Numeral.digitIn? 16 c).isSome) then
    some (UInt16.ofNat (Numeral.value 16 text))
  else none

def groupOf (high low : UInt8) : UInt16 :=
  UInt16.ofNat (high.toNat * 256 + low.toNat)

/-- Groups with colons between. Where `dottedEnd` is set, a version 4 address may stand for the
last two. -/
def groups? (dottedEnd : Bool) : List (List Char) → Option (List UInt16)
  | [] => some []
  | [last] =>
    match if dottedEnd then dotted? last else none with
    | some (a, b, c, d) => some [groupOf a b, groupOf c d]
    | none => (group? last).map fun group => [group]
  | first :: rest => do
    let group ← group? first
    pure (group :: (← groups? dottedEnd rest))

/-- The groups of a text; the empty text has none. -/
def groupsOf? (dottedEnd : Bool) (text : List Char) : Option (List UInt16) :=
  if text.isEmpty then some [] else groups? dottedEnd (text.splitOn ':')

/-- The parts of a text before and after the first `::`. -/
def splitGap (before : List Char) : List Char → Option (List Char × List Char)
  | ':' :: ':' :: rest => some (before.reverse, rest)
  | c :: rest => splitGap (c :: before) rest
  | [] => none

def ofGroups? (groups : List UInt16) : Option Address :=
  if eight : groups.toArray.size = 8 then some (.v6 ⟨groups.toArray, eight⟩) else none

/-- Reads a version 6 address. A gap stands for at least one group. -/
def parseGroups? (text : List Char) : Option Address :=
  match splitGap [] text with
  | none => (groupsOf? true text).bind ofGroups?
  | some (before, after) => do
    let first ← groupsOf? false before
    let last ← groupsOf? true after
    if first.length + last.length ≤ 7 then
      ofGroups? (first ++ List.replicate (8 - first.length - last.length) 0 ++ last)
    else none

def parse? (text : String) : Option Address :=
  match dotted? text.toList with
  | some (a, b, c, d) => some (.v4 a b c d)
  | none => parseGroups? text.toList

end QueryJournal.Address
