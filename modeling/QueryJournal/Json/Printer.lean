import QueryJournal.Document.Value
import QueryJournal.Text.Numeral

namespace QueryJournal.Json

open QueryJournal.Document

/-!
The compact JSON form of a value: no blanks, members in their order, and in strings only the
characters escaped that have to be. So a written value holds no control character, and no
newline in particular.
-/

def escapedChar (c : Char) : List Char :=
  if c == '"' then ['\\', '"']
  else if c == '\\' then ['\\', '\\']
  else if c == '\n' then ['\\', 'n']
  else if c == '\r' then ['\\', 'r']
  else if c == '\t' then ['\\', 't']
  else if c == '\x08' then ['\\', 'b']
  else if c == '\x0C' then ['\\', 'f']
  else if c.toNat < 0x20 then ['\\', 'u'] ++ Numeral.padded 4 16 c.toNat
  else [c]

def literal (text : String) : List Char :=
  ['"'] ++ text.toList.flatMap escapedChar ++ ['"']

mutual

/-- The text of a value; what cannot be read has no text of its own and is written as null. -/
def render : Value → List Char
  | .null => ['n', 'u', 'l', 'l']
  | .bool true => ['t', 'r', 'u', 'e']
  | .bool false => ['f', 'a', 'l', 's', 'e']
  | .integer value => Numeral.signed value
  | .text value => literal value
  | .list [] => ['[', ']']
  | .list (item :: items) => ['['] ++ render item ++ renderItems items ++ [']']
  | .table [] => ['\x7b', '\x7d']
  | .table ((name, value) :: members) =>
    ['\x7b'] ++ literal name ++ [':'] ++ render value ++ renderMembers members ++ ['\x7d']
  | .unread => ['n', 'u', 'l', 'l']

def renderItems : List Value → List Char
  | [] => []
  | item :: items => [','] ++ render item ++ renderItems items

def renderMembers : List (String × Value) → List Char
  | [] => []
  | (name, value) :: members =>
    [','] ++ literal name ++ [':'] ++ render value ++ renderMembers members

end

def print (value : Value) : String :=
  String.ofList (render value)

end QueryJournal.Json
