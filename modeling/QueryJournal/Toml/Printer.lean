import QueryJournal.Document.Value
import QueryJournal.Toml.Text

namespace QueryJournal.Toml

open QueryJournal.Document

/-!
The TOML text of a value. The tables of a value become sections, each with a header and its
settings on lines of their own; a list of more than one item has every item on a line of its own.
-/

def isTable : Value → Bool
  | .table _ => true
  | _ => false

def isWritten : Value → Bool
  | .null => false
  | .unread => false
  | _ => true

mutual

def inlineText : Value → List Char
  | .bool true => ['t', 'r', 'u', 'e']
  | .bool false => ['f', 'a', 'l', 's', 'e']
  | .integer value => Numeral.signed value
  | .text value => quoted value.toList
  | .list [] => ['[', ']']
  | .list [item] => ['['] ++ inlineText item ++ [']']
  | .list (item :: items) => ['['] ++ itemLines (item :: items) ++ ['\n', ']']
  | .table [] => ['\x7b', '\x7d']
  | .table (member :: members) =>
    ['\x7b', ' '] ++ memberText member ++ memberTexts members ++ [' ', '\x7d']
  | .null => []
  | .unread => []

def itemLines : List Value → List Char
  | [] => []
  | item :: items =>
    ['\n', ' ', ' ', ' ', ' '] ++ inlineText item ++ [','] ++ itemLines items

def memberText : String × Value → List Char
  | (name, value) => writtenKey name.toList ++ [' ', '=', ' '] ++ inlineText value

def memberTexts : List (String × Value) → List Char
  | [] => []
  | member :: members => [',', ' '] ++ memberText member ++ memberTexts members

end

/-- A table of the text: its path, whether it has members at all, and its settings. -/
structure Section where
  path : List String
  isEmpty : Bool
  settings : List (String × Value)

mutual

def sections (path : List String) : List (String × Value) → List Section
  | members =>
    let written := members.filter fun member => isWritten member.2
    { path
      isEmpty := written.isEmpty
      settings := written.filter fun member => !isTable member.2 } :: innerSections path members

def innerSections (path : List String) : List (String × Value) → List Section
  | [] => []
  | (name, .table members) :: rest =>
    sections (path ++ [name]) members ++ innerSections path rest
  | (_, _) :: rest => innerSections path rest

end

def settingLine (setting : String × Value) : List Char :=
  writtenKey setting.1.toList ++ [' ', '=', ' '] ++ inlineText setting.2 ++ ['\n']

def headerLine (path : List String) : List Char :=
  ['['] ++ ['.'].intercalate (path.map fun name => writtenKey name.toList) ++ [']', '\n']

namespace Section

/-- Whether a section appears in the text. One that holds nothing but tables does not. -/
def isShown (part : Section) : Bool :=
  !part.settings.isEmpty || (part.isEmpty && !part.path.isEmpty)

def text (part : Section) : List Char :=
  (if part.path.isEmpty then [] else headerLine part.path) ++ part.settings.flatMap settingLine

end Section

/-- The text of a table: its sections with an empty line between. -/
def render (members : List (String × Value)) : List Char :=
  ['\n'].intercalate (((sections [] members).filter Section.isShown).map Section.text)

end QueryJournal.Toml
