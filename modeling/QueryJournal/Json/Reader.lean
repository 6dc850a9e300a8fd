import QueryJournal.Json.Token

namespace QueryJournal.Json

open QueryJournal.Document
open QueryJournal.Utf8 (Bytes)

/-!
From tokens to a value. The reader keeps the containers that are still open in a stack, so
nesting costs no recursion and no text is refused for its depth.
-/

/-- An open container with what it holds so far, last first. A table also has the name of the
member whose value comes next. -/
inductive Frame where
  | list (before : List Value)
  | table (name : Option String) (before : List (Option String × Value))

/-- What may come next. The flag says whether the innermost container may close here, which it
may before its first item. -/
inductive Position where
  | value (mayClose : Bool)
  | name (mayClose : Bool)
  | colon
  | next
  | done (value : Value)

/-- The open containers, innermost first, and what may come next. -/
structure Reader where
  stack : List Frame
  position : Position

namespace Reader

def start : Reader :=
  { stack := [], position := .value false }

/-- A value has ended: it goes into the innermost open container. -/
def complete (stack : List Frame) (value : Value) : Reader :=
  match stack with
  | [] => { stack := [], position := .done value }
  | .list before :: outer => { stack := .list (value :: before) :: outer, position := .next }
  | .table name before :: outer =>
    { stack := .table none ((name, value) :: before) :: outer, position := .next }

/-- The table of some members, each of which has to have a name that is text. -/
def tableOf (members : List (Option String × Value)) : Value :=
  match members.mapM fun member => member.1.map fun name => (name, member.2) with
  | some members => .table members
  | none => .unread

def step (reader : Reader) (token : Token) : Option Reader :=
  match reader.position, token, reader.stack with
  | .value _, .openList, stack =>
    some { stack := .list [] :: stack, position := .value true }
  | .value _, .openTable, stack =>
    some { stack := .table none [] :: stack, position := .name true }
  | .value true, .closeList, .list before :: outer =>
    some (complete outer (.list before.reverse))
  | .value _, .scalar value, stack => some (complete stack value)
  | .value _, .text text, stack => some (complete stack (text.elim .unread .text))
  | .name _, .text name, .table _ before :: outer =>
    some { stack := .table name before :: outer, position := .colon }
  | .name true, .closeTable, .table _ before :: outer =>
    some (complete outer (tableOf before.reverse))
  | .colon, .colon, stack => some { stack, position := .value false }
  | .next, .comma, .list before :: outer =>
    some { stack := .list before :: outer, position := .value false }
  | .next, .comma, .table name before :: outer =>
    some { stack := .table name before :: outer, position := .name false }
  | .next, .closeList, .list before :: outer =>
    some (complete outer (.list before.reverse))
  | .next, .closeTable, .table _ before :: outer =>
    some (complete outer (tableOf before.reverse))
  | _, _, _ => none

def value? (reader : Reader) : Option Value :=
  match reader.position with
  | .done value => some value
  | _ => none

end Reader

def parse? (bytes : Bytes) : Option Value := do
  let tokens ← tokens? bytes
  let reader ← tokens.foldlM Reader.step Reader.start
  reader.value?

def parseText? (text : String) : Option Value :=
  parse? (Utf8.ofString text)

end QueryJournal.Json
