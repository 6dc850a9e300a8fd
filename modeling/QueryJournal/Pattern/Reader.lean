import QueryJournal.Pattern.Basic
import QueryJournal.Text.Letter
import QueryJournal.Text.Numeral
import QueryJournal.Text.Scan

namespace QueryJournal.Pattern

open QueryJournal.Text

/-!
Reading patterns. Characters stand for themselves unless they are marks: groups in round brackets,
sets in square ones, branches between bars, repetitions after what they repeat, and escapes after a
backslash. Classes of words and digits, borders of words and counted repetitions are no part of the
notation; a pattern with one of them cannot be read.
-/

/-- How the marks of a pattern are to be understood. -/
structure Mode where
  dotTakesLineEnds : Bool := false
  edgesOfLines : Bool := false
  lazy : Bool := false
  ignoresCase : Bool := false
  deriving DecidableEq

namespace Mode

/-- The mode in which one flag is given or taken back. -/
def with? (given : Bool) (mode : Mode) : Char → Option Mode
  | 's' => some { mode with dotTakesLineEnds := given }
  | 'm' => some { mode with edgesOfLines := given }
  | 'U' => some { mode with lazy := given }
  | 'i' => some { mode with ignoresCase := given }
  | 'u' => if given then some mode else none
  | _ => none

/-- The mode after flags, of which those behind a minus sign are taken back. Each stands once. -/
def after? (mode : Mode) (flags : List Char) : Option Mode := do
  let given := flags.takeWhile (· != '-')
  let taken := (flags.dropWhile (· != '-')).drop 1
  let mode ← given.foldlM (with? true) mode
  let mode ← taken.foldlM (with? false) mode
  if flags.getLast? != some '-' && (given ++ taken).Nodup then pure mode else none

end Mode

def isEscapable (c : Char) : Bool :=
  c.toNat < 0x80 && !c.isAlphanum && c != '<' && c != '>'

def codePoint? (digits : Nat) : Scan Char := fun text => do
  let (number, rest) ← exactly? digits (fun c => (Numeral.digitIn? 16 c).isSome) text
  let code := Numeral.value 16 number
  if code.isValidChar then pure (Char.ofNat code, rest) else none

def escaped? : Scan Char
  | 'a' :: rest => some ('\x07', rest)
  | 't' :: rest => some ('\t', rest)
  | 'n' :: rest => some ('\n', rest)
  | 'v' :: rest => some ('\x0b', rest)
  | 'f' :: rest => some ('\x0c', rest)
  | 'r' :: rest => some ('\r', rest)
  | 'x' :: rest => codePoint? 2 rest
  | 'u' :: rest => codePoint? 4 rest
  | 'U' :: rest => codePoint? 8 rest
  | c :: rest => if isEscapable c then some (c, rest) else none
  | [] => none

def member? : Scan Char
  | '\\' :: rest => escaped? rest
  | c :: rest => some (c, rest)
  | [] => none

/-- Reads a character of a set, or two of them with a minus sign between, which stand for all
between them. -/
def range? : Scan CharSet := fun text => do
  let (first, rest) ← member? text
  match rest with
  | '-' :: next :: more =>
    if next == ']' || next == '-' then pure (.single first, rest)
    else
      let (last, rest) ← member? (next :: more)
      if first ≤ last then pure (.within [(first.toNat, last.toNat)], rest) else none
  | _ => pure (.single first, rest)

def namedSets : List (String × List (Nat × Nat)) :=
  [("alnum", [(0x30, 0x39), (0x41, 0x5A), (0x61, 0x7A)]), ("alpha", [(0x41, 0x5A), (0x61, 0x7A)]),
    ("ascii", [(0x00, 0x7F)]), ("blank", [(0x09, 0x09), (0x20, 0x20)]),
    ("cntrl", [(0x00, 0x1F), (0x7F, 0x7F)]), ("digit", [(0x30, 0x39)]), ("graph", [(0x21, 0x7E)]),
    ("lower", [(0x61, 0x7A)]), ("print", [(0x20, 0x7E)]),
    ("punct", [(0x21, 0x2F), (0x3A, 0x40), (0x5B, 0x60), (0x7B, 0x7E)]),
    ("space", [(0x09, 0x0D), (0x20, 0x20)]), ("upper", [(0x41, 0x5A)]),
    ("word", [(0x30, 0x39), (0x41, 0x5A), (0x5F, 0x5F), (0x61, 0x7A)]),
    ("xdigit", [(0x30, 0x39), (0x41, 0x46), (0x61, 0x66)])]

def namedSet? : Scan CharSet := fun text =>
  let (complemented, text) := match text with
    | '^' :: rest => (true, rest)
    | _ => (false, text)
  match run (· != ':') text with
  | (name, ':' :: ']' :: rest) =>
    (namedSets.lookup (String.ofList name)).map fun ranges =>
      (if complemented then .complement (.within ranges) else .within ranges, rest)
  | _ => none

/-- Reads the minus signs at the start of a set, and a closing bracket in the place of its first
member: there they stand for themselves. -/
def firstMembers (text : List Char) : CharSet × List Char :=
  match run (· == '-') text with
  | ([], ']' :: rest) => (.single ']', rest)
  | ([], rest) => (.empty, rest)
  | (_, rest) => (.single '-', rest)

def operation? : Scan (CharSet → CharSet → CharSet)
  | '&' :: '&' :: rest => some (.common, rest)
  | '-' :: '-' :: rest => some (.without, rest)
  | '~' :: '~' :: rest => some (.either, rest)
  | _ => none

mutual

def set? : Nat → Scan CharSet
  | 0, _ => none
  | fuel + 1, '^' :: text =>
    let (first, rest) := firstMembers text
    (members? fuel id first rest).map fun (set, rest) => (.complement set, rest)
  | fuel + 1, text =>
    let (first, rest) := firstMembers text
    members? fuel id first rest

/-- Reads the members of a set up to its closing bracket. What stands before the last sign between
sets is in `finish`. -/
def members? : Nat → (CharSet → CharSet) → CharSet → Scan CharSet
  | 0, _, _, _ => none
  | _ + 1, finish, found, ']' :: rest => some (finish found, rest)
  | fuel + 1, finish, found, '[' :: text =>
    let named := match text with
      | ':' :: text => namedSet? text
      | _ => none
    match named with
    | some (set, rest) => members? fuel finish (.union found set) rest
    | none => do
      let (set, rest) ← set? fuel text
      members? fuel finish (.union found set) rest
  | fuel + 1, finish, found, text =>
    match operation? text with
    | some (operation, rest) => members? fuel (operation (finish found)) .empty rest
    | none => do
      let (set, rest) ← range? text
      members? fuel finish (.union found set) rest

end

def skipName? (text : List Char) : Option (List Char) :=
  match run (· != '>') text with
  | (c :: name, '>' :: rest) =>
    let isLetter := c == '_' || (isLetterOrNumeral c && !Numeral.isDigit c)
    let isFurther c := isLetterOrNumeral c || c == '_' || c == '.' || c == '[' || c == ']'
    if isLetter && name.all isFurther then some rest else none
  | _ => none

/-- How a group starts: with a group that is to be read in a mode, or with the mode of what follows
it. -/
inductive Opening where
  | group (mode : Mode)
  | flags (mode : Mode)

def opening? (mode : Mode) : Scan Opening
  | '?' :: 'P' :: '<' :: text => (skipName? text).map fun rest => (.group mode, rest)
  | '?' :: '<' :: text => (skipName? text).map fun rest => (.group mode, rest)
  | '?' :: text =>
    match run (fun c => c != ':' && c != ')') text with
    | (flags, ':' :: rest) => (mode.after? flags).map fun mode => (.group mode, rest)
    | (flags, _ :: rest) =>
      if flags.isEmpty then none else (mode.after? flags).map fun mode => (.flags mode, rest)
    | _ => none
  | text => some (.group mode, text)

def literal? (mode : Mode) (set : CharSet) : Option Pattern :=
  if mode.ignoresCase then none else some (.one set)

def repetitions (mode : Mode) (pattern : Pattern) : List Char → Pattern × List Char
  | '*' :: '?' :: rest => repetitions mode (.many mode.lazy pattern) rest
  | '*' :: rest => repetitions mode (.many (!mode.lazy) pattern) rest
  | '+' :: '?' :: rest =>
    repetitions mode (.sequence pattern (.many mode.lazy pattern)) rest
  | '+' :: rest => repetitions mode (.sequence pattern (.many (!mode.lazy) pattern)) rest
  | '?' :: '?' :: rest => repetitions mode (.optional mode.lazy pattern) rest
  | '?' :: rest => repetitions mode (.optional (!mode.lazy) pattern) rest
  | rest => (pattern, rest)

def single? (mode : Mode) : Scan Pattern
  | '.' :: rest =>
    some (.one (.complement (if mode.dotTakesLineEnds then .empty else .single '\n')), rest)
  | '^' :: rest => some (if mode.edgesOfLines then .lineStart else .textStart, rest)
  | '$' :: rest => some (if mode.edgesOfLines then .lineEnd else .textEnd, rest)
  | '\\' :: 'A' :: rest => some (.textStart, rest)
  | '\\' :: 'z' :: rest => some (.textEnd, rest)
  | '\\' :: text => do
    let (c, rest) ← escaped? text
    pure (← literal? mode (.single c), rest)
  | '[' :: text => do
    let (set, rest) ← set? (2 * text.length + 2) text
    pure (← literal? mode set, rest)
  | c :: rest =>
    if "*+?\x7b".toList.contains c then none
    else (literal? mode (.single c)).map fun pattern => (pattern, rest)
  | [] => none

mutual

def branches? : Nat → Mode → Scan Pattern
  | 0, _, _ => none
  | fuel + 1, mode, text => do
    let ((first, mode), rest) ← branch? fuel mode text
    match rest with
    | '|' :: rest =>
      let (others, rest) ← branches? fuel mode rest
      pure (.choice first others, rest)
    | _ => pure (first, rest)

def branch? : Nat → Mode → Scan (Pattern × Mode)
  | 0, _, _ => none
  | _ + 1, mode, [] => some ((.nothing, mode), [])
  | _ + 1, mode, '|' :: rest => some ((.nothing, mode), '|' :: rest)
  | _ + 1, mode, ')' :: rest => some ((.nothing, mode), ')' :: rest)
  | fuel + 1, mode, '(' :: text => do
    match ← opening? mode text with
    | (.flags mode, rest) => branch? fuel mode rest
    | (.group inner, rest) => do
      let (group, rest) ← branches? fuel inner rest
      continued? fuel mode group (← skip? ')' rest)
  | fuel + 1, mode, text => do
    let (pattern, rest) ← single? mode text
    continued? fuel mode pattern rest

def continued? : Nat → Mode → Pattern → Scan (Pattern × Mode)
  | 0, _, _, _ => none
  | fuel + 1, mode, pattern, text => do
    let (first, rest) := repetitions mode pattern text
    let ((others, mode), rest) ← branch? fuel mode rest
    pure ((.sequence first others, mode), rest)

end

def parse? (text : List Char) : Option Pattern :=
  match branches? (4 * text.length + 4) {} text with
  | some (pattern, []) => some pattern
  | _ => none

end QueryJournal.Pattern
