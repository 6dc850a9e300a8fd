import QueryJournal.Text.Numeral
import QueryJournal.Text.Scan

namespace QueryJournal.Toml

open QueryJournal.Text

/-!
The strings and keys of TOML. A string has four styles: with escapes or without, on one line or in
a block of lines. A text is written in the first of the styles that shows it as it is, and with
escapes where none does.
-/

def isPlain (c : Char) : Bool :=
  c == '\t' || (0x20 ≤ c.toNat && c.toNat != 0x7F)

def isSpace (c : Char) : Bool :=
  c == ' ' || c == '\t'

def skipLineEnd? : List Char → Option (List Char)
  | '\n' :: rest => some rest
  | '\r' :: '\n' :: rest => some rest
  | _ => none

/-!
### Reading strings
-/

def escapedBy? (letter : Char) : Option Char :=
  if letter == 'b' then some '\x08'
  else if letter == 't' then some '\t'
  else if letter == 'n' then some '\n'
  else if letter == 'f' then some '\x0C'
  else if letter == 'r' then some '\r'
  else if letter == '"' || letter == '\\' then some letter
  else none

def codePoint? (count : Nat) (text : List Char) : Option (Char × List Char) := do
  let (digits, rest) ← exactly? count (fun c => (Numeral.digitIn? 16 c).isSome) text
  let code := Numeral.value 16 digits
  if code.isValidChar then pure (Char.ofNat code, rest) else none

def escape? : List Char → Option (Char × List Char)
  | [] => none
  | c :: rest =>
    if c == 'u' then codePoint? 4 rest
    else if c == 'U' then codePoint? 8 rest
    else (escapedBy? c).map fun character => (character, rest)

/-- A kind of string: its mark, and whether it has escapes. -/
structure Kind where
  mark : Char
  hasEscapes : Bool
  deriving DecidableEq, Repr

def Kind.basic : Kind :=
  { mark := '"', hasEscapes := true }

/-- Strings without escapes. -/
def Kind.literal : Kind :=
  { mark := '\'', hasEscapes := false }

def linePiece? (kind : Kind) : Scan (List Char)
  | [] => none
  | c :: rest =>
    if c == kind.mark then none
    else if kind.hasEscapes && c == '\\' then
      (escape? rest).map fun (character, rest) => ([character], rest)
    else if isPlain c then some ([c], rest)
    else none

def line? (kind : Kind) (text : List Char) : Option (List Char × List Char) := do
  let (pieces, rest) := many (linePiece? kind) (← skip? kind.mark text)
  pure (pieces.flatten, ← skip? kind.mark rest)

def gap? (text : List Char) : Option (Unit × List Char) :=
  match skipLineEnd? text with
  | some rest => some ((), rest)
  | none =>
    match text with
    | c :: rest => if isSpace c then some ((), rest) else none
    | [] => none

/-- Removes what follows a backslash at the end of a line up to the next character that shows. -/
def skipJoint? (text : List Char) : Option (List Char) :=
  (skipLineEnd? (text.dropWhile isSpace)).map fun rest => (many gap? rest).2

/-- Reads a part of a string in a block. One or two marks in a row are part of it. -/
def blockPiece? (kind : Kind) (text : List Char) : Option (List Char × List Char) :=
  match skipLineEnd? text with
  | some rest => some (['\n'], rest)
  | none =>
    match text with
    | [] => none
    | c :: rest =>
      if c == kind.mark then
        let (marks, rest) := run (· == kind.mark) text
        if marks.length ≤ 2 then some (marks, rest) else none
      else if kind.hasEscapes && c == '\\' then
        match skipJoint? rest with
        | some rest => some ([], rest)
        | none => (escape? rest).map fun (character, rest) => ([character], rest)
      else if isPlain c then some ([c], rest)
      else none

def fence (kind : Kind) : List Char :=
  List.replicate 3 kind.mark

/-- Reads a string in a block. A line end right after the first marks does not belong to it; of
the marks at its end all but three do. -/
def block? (kind : Kind) (text : List Char) : Option (List Char × List Char) := do
  let start ← strip? (fence kind) text
  let (pieces, rest) := many (blockPiece? kind) ((skipLineEnd? start).getD start)
  let (marks, rest) := run (· == kind.mark) rest
  if 3 ≤ marks.length ∧ marks.length ≤ 5 then
    pure (pieces.flatten ++ marks.drop 3, rest)
  else none

def quoted? (kind : Kind) (text : List Char) : Option (List Char × List Char) :=
  if (strip? (fence kind) text).isSome then block? kind text else line? kind text

def string? (text : List Char) : Option (List Char × List Char) :=
  if text.head? == some '"' then quoted? .basic text else quoted? .literal text

/-!
### Reading keys
-/

/-- Whether a character may stand in a key without marks. -/
def isBare (c : Char) : Bool :=
  c.isAlphanum || c == '-' || c == '_'

def simpleKey? (text : List Char) : Option (String × List Char) :=
  match text with
  | [] => none
  | c :: _ =>
    if c == '"' then (line? .basic text).map fun (key, rest) => (String.ofList key, rest)
    else if c == '\'' then (line? .literal text).map fun (key, rest) => (String.ofList key, rest)
    else
      let (key, rest) := run isBare text
      if key.isEmpty then none else some (String.ofList key, rest)

def spacedKey? (text : List Char) : Option (String × List Char) :=
  (simpleKey? (text.dropWhile isSpace)).map fun (key, rest) => (key, rest.dropWhile isSpace)

def pointedKey? (text : List Char) : Option (String × List Char) :=
  (skip? '.' text).bind spacedKey?

/-- How many parts a key may not reach, and how deep values may not be nested. -/
def nestingLimit : Nat := 80

/-- Reads a key: the parts before the last one, and the last one. -/
def key? (text : List Char) : Option ((List String × String) × List Char) := do
  let (first, rest) ← spacedKey? text
  let (others, rest) := many pointedKey? rest
  if others.length + 1 < nestingLimit then
    let parts := first :: others
    pure ((parts.dropLast, parts.getLastD first), rest)
  else none

/-!
### Writing
-/

/-- How often a character stands in a row at most. -/
def longestRun (mark : Char) (text : List Char) : Nat :=
  (text.foldl
    (fun (longest, current) c =>
      let current := if c == mark then current + 1 else 0
      (max longest current, current))
    (0, 0)).1

def needsEscapes (text : List Char) : Bool :=
  text.any fun c => !isPlain c && c != '\n'

/-- The written form of a character in a style with escapes; a line end may stay one in a
block. -/
def escapedChar (inBlock : Bool) (c : Char) : List Char :=
  if c == '\x08' then ['\\', 'b']
  else if c == '\t' then ['\\', 't']
  else if c == '\n' then if inBlock then [c] else ['\\', 'n']
  else if c == '\x0C' then ['\\', 'f']
  else if c == '\r' then ['\\', 'r']
  else if c == '\\' then ['\\', '\\']
  else if isPlain c then [c]
  else ['\\', 'u'] ++ (Numeral.padded 4 16 c.toNat).map Char.toUpper

/-- The written form of a text in a style with escapes, after `marks` marks in a row. As many of
them as do not end the string stay as they are. -/
def escaped (inBlock : Bool) (marks : Nat) : List Char → List Char
  | [] => []
  | c :: rest =>
    if c == '"' then
      if marks < (if inBlock then 2 else 0) then c :: escaped inBlock (marks + 1) rest
      else ['\\', c] ++ escaped inBlock 0 rest
    else escapedChar inBlock c ++ escaped inBlock 0 rest

def basicLine (text : List Char) : List Char :=
  ['"'] ++ escaped false 0 text ++ ['"']

/-- A text as a string without escapes on one line. -/
def literalLine (text : List Char) : List Char :=
  ['\''] ++ text ++ ['\'']

/-- The body of a block between its marks. A body of more than one line starts on a line of its
own. -/
def blockOf (kind : Kind) (text body : List Char) : List Char :=
  fence kind ++ (if text.contains '\n' then ['\n'] else []) ++ body ++ fence kind

def quoted (text : List Char) : List Char :=
  let quotes := longestRun '"' text
  let apostrophes := longestRun '\'' text
  let lines := text.contains '\n'
  let backslash := text.contains '\\'
  let block := blockOf .basic text (escaped true 0 text)
  if needsEscapes text then if lines then block else basicLine text
  else if !lines && !backslash && quotes = 0 then basicLine text
  else if !lines && apostrophes = 0 then literalLine text
  else if !backslash && quotes ≤ 2 then block
  else if apostrophes ≤ 2 then blockOf .literal text text
  else if lines then block
  else basicLine text

def writtenKey (key : List Char) : List Char :=
  let plain := !needsEscapes key && !key.contains '\n'
  if !key.isEmpty && key.all isBare then key
  else if plain && !key.contains '\\' && !key.contains '"' then basicLine key
  else if plain && !key.contains '\'' then literalLine key
  else basicLine key

end QueryJournal.Toml
