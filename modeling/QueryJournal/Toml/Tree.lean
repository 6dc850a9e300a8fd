import QueryJournal.Document.Value

namespace QueryJournal.Toml

open QueryJournal.Document

/-!
The tables of a TOML text while they are put together. No table is defined twice: a header may
define a table that others only led through, and a key of several parts may add to a table that
such a key has made.
-/

/-- Where a table comes from: from a header of its own or from braces, from headers of tables
within it, or from keys of several parts. -/
inductive Origin where
  | defined
  | implied
  | dotted
  deriving DecidableEq, Repr

/-- What a name stands for: a finished value, a table, or a list of tables. -/
inductive Node where
  | value (value : Value)
  | table (origin : Origin) (members : List (String × Node))
  | tables (items : List (List (String × Node)))

abbrev Members := List (String × Node)

namespace Members

/-- Changes what a name stands for; a name that stood for nothing comes last. -/
def update (name : String) (change : Option Node → Option Node) : Members → Option Members
  | [] => (change none).map fun node => [(name, node)]
  | (first, node) :: rest =>
    if first = name then (change (some node)).map fun node => (first, node) :: rest
    else (update name change rest).map fun rest => (first, node) :: rest

/-- Changes the last one of a list of tables. -/
def updateLast (change : Members → Option Members) (items : List Members) :
    Option (List Members) :=
  match items.getLast? with
  | none => none
  | some last => (change last).map fun last => items.dropLast ++ [last]

/-- Changes the table at a path. The path leads through the last table of a list of tables. Tables
that are missing are made, with a given origin; a key of several parts leads through no table that
is defined elsewhere. -/
def descend (made : Origin) (change : Origin → Members → Option Members) :
    Origin → List String → Members → Option Members
  | origin, [], members => change origin members
  | _, name :: path, members =>
    members.update name fun
      | none => (descend made change made path []).map (.table made)
      | some (.table origin inner) =>
        if made = .dotted ∧ origin = .defined then none
        else (descend made change origin path inner).map (.table origin)
      | some (.tables items) => (updateLast (descend made change .defined path) items).map .tables
      | some (.value _) => none

def add (name : String) (node : Node) (members : Members) : Option Members :=
  members.update name fun
    | none => some node
    | some _ => none

/-- Sets a key of one or several parts. The table that gets the value is the one of the key itself,
or else one that keys of several parts have made. -/
def set (path : List String) (name : String) (value : Value) (members : Members) :
    Option Members :=
  members.descend .dotted
    (fun origin inner =>
      if decide (origin = .dotted) == path.isEmpty then none else inner.add name (.value value))
    .defined path

def define (path : List String) (name : String) (members : Members) : Option Members :=
  members.descend .implied
    (fun _ inner => inner.update name fun
      | none => some (.table .defined [])
      | some (.table .implied members) => some (.table .defined members)
      | _ => none)
    .defined path

def append (path : List String) (name : String) (members : Members) : Option Members :=
  members.descend .implied
    (fun _ inner => inner.update name fun
      | none => some (.tables [[]])
      | some (.tables items) => some (.tables (items ++ [[]]))
      | _ => none)
    .defined path

def within (place : List String) (change : Members → Option Members) (members : Members) :
    Option Members :=
  members.descend .implied (fun _ inner => change inner) .defined place

end Members

mutual

def Node.toValue : Node → Value
  | .value value => value
  | .table _ members => .table (memberValues members)
  | .tables items => .list (tableValues items)

def memberValues : List (String × Node) → List (String × Value)
  | [] => []
  | (name, node) :: rest => (name, node.toValue) :: memberValues rest

def tableValues : List (List (String × Node)) → List Value
  | [] => []
  | members :: rest => .table (memberValues members) :: tableValues rest

end

end QueryJournal.Toml
