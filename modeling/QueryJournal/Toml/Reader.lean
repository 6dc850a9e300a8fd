import QueryJournal.Toml.Scalar
import QueryJournal.Toml.Tree

namespace QueryJournal.Toml

open QueryJournal.Document
open QueryJournal.Text

/-!
From a TOML text to a value. A text is a row of lines: settings, headers and comments. A header
says to which table the settings after it belong.
-/

/-- Removes a comment from the start, which ends before the end of its line. -/
def afterComment : List Char → List Char
  | '#' :: rest => rest.dropWhile isPlain
  | text => text

/-- Removes the rest of a line: blanks, a comment and the line end. The last line needs no end. -/
def lineRest? (text : List Char) : Option (List Char) :=
  match afterComment (text.dropWhile isSpace) with
  | [] => some []
  | rest => skipLineEnd? rest

def listGap? (text : List Char) : Option (Unit × List Char) :=
  match gap? text with
  | some found => some found
  | none => (skip? '#' text).bind fun rest =>
      (skipLineEnd? (rest.dropWhile isPlain)).map fun rest => ((), rest)

def skipListGaps (text : List Char) : List Char :=
  (many listGap? text).2

def items? (item? : Scan Value) (text : List Char) : Option (List Value × List Char) :=
  match skipListGaps text with
  | ']' :: rest => some ([], rest)
  | start =>
    match item? start with
    | none => none
    | some (item, rest) =>
      match skipListGaps rest with
      | ']' :: rest => some ([item], rest)
      | ',' :: rest =>
        if rest.length < text.length then
          (items? item? rest).map fun (items, rest) => (item :: items, rest)
        else none
      | _ => none
termination_by text.length

def setting? (item? : Scan Value) (text : List Char) :
    Option (((List String × String) × Value) × List Char) := do
  let (key, rest) ← key? text
  let (value, rest) ← item? ((← skip? '=' rest).dropWhile isSpace)
  pure ((key, value), rest)

def settings? (item? : Scan Value) (members : Members) (text : List Char) :
    Option (Members × List Char) :=
  match setting? item? text with
  | none => none
  | some (((path, name), value), rest) =>
    match members.set path name value with
    | none => none
    | some members =>
      match rest.dropWhile isSpace with
      | '\x7d' :: rest => some (members, rest)
      | ',' :: rest => if rest.length < text.length then settings? item? members rest else none
      | _ => none
termination_by text.length

def braces? (item? : Scan Value) (text : List Char) : Option (Value × List Char) :=
  match text.dropWhile isSpace with
  | '\x7d' :: rest => some (.table [], rest)
  | start =>
    (settings? item? [] start).map fun (members, rest) => (.table (memberValues members), rest)

def value? : Nat → List Char → Option (Value × List Char)
  | 0, text => scalar? text
  | depth + 1, text =>
    match text with
    | '[' :: rest => (items? (value? depth) rest).map fun (items, rest) => (.list items, rest)
    | '\x7b' :: rest => braces? (value? depth) rest
    | text => scalar? text

/-- A text that has been read in part: its tables, and the path of the table to which settings
belong. -/
structure Draft where
  root : Members
  place : List String

namespace Draft

def start : Draft :=
  { root := [], place := [] }

def set (draft : Draft) (path : List String) (name : String) (value : Value) : Option Draft :=
  (draft.root.within draft.place fun members => members.set path name value).map fun root =>
    { draft with root }

def define (draft : Draft) (path : List String) (name : String) : Option Draft :=
  (draft.root.define path name).map fun root => { root, place := path ++ [name] }

def append (draft : Draft) (path : List String) (name : String) : Option Draft :=
  (draft.root.append path name).map fun root => { root, place := path ++ [name] }

def header? (draft : Draft) (text : List Char) : Option (Draft × List Char) :=
  match text with
  | '[' :: rest => do
    let ((path, name), rest) ← key? rest
    let rest ← (skip? ']' rest).bind (skip? ']')
    pure (← draft.append path name, ← lineRest? rest)
  | text => do
    let ((path, name), rest) ← key? text
    pure (← draft.define path name, ← (skip? ']' rest).bind lineRest?)

def setting? (draft : Draft) (text : List Char) : Option (Draft × List Char) := do
  let (((path, name), value), rest) ← Toml.setting? (value? (nestingLimit - 1)) text
  pure (← draft.set path name value, ← lineRest? rest)

/-- Takes in a line, which has at least one character. -/
def line? (draft : Draft) (text : List Char) : Option (Draft × List Char) :=
  match text with
  | [] => none
  | c :: rest =>
    if c == '#' || c == '\n' || c == '\r' then (lineRest? text).map fun rest => (draft, rest)
    else if c == '[' then draft.header? rest
    else draft.setting? text

def lines? (draft : Draft) (text : List Char) : Option Draft :=
  match text.dropWhile isSpace with
  | [] => some draft
  | start =>
    match draft.line? start with
    | none => none
    | some (draft, rest) => if rest.length < text.length then draft.lines? rest else none
termination_by text.length

end Draft

/-- The value of a TOML text. A byte order mark at its start is passed over. -/
def parse? (text : List Char) : Option Value :=
  (Draft.start.lines? ((skip? '\uFEFF' text).getD text)).map fun draft =>
    .table (memberValues draft.root)

end QueryJournal.Toml
