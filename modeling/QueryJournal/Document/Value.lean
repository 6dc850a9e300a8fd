namespace QueryJournal.Document

/-!
The tree that a structured text denotes, whatever notation it was written in. Records and
settings are read from this tree and written to it, so that one schema serves every notation.
-/

/-- A value of a structured text. `unread` stands for everything that no field of a schema can
hold: a number with a fraction or an exponent, a date, a literal that denotes no Unicode text,
and a table that has such a literal among its names. -/
inductive Value where
  | null
  | bool (value : Bool)
  | integer (value : Int)
  | text (value : String)
  | list (items : List Value)
  | table (members : List (String × Value))
  | unread
  deriving Inhabited

/-- A notation, as far as it decides what a value may hold in the place of a structure. -/
inductive Dialect where
  | json
  | toml
  deriving DecidableEq, Repr

namespace Dialect

/-- Whether a structure that is written as a list may have items past its last field. -/
def passesSurplus : Dialect → Bool
  | .json => false
  | .toml => true

/-- Whether a value says that nothing more belongs to a choice. TOML, which has no null, says it
with an empty list or table. -/
def endsChoice : Dialect → Value → Bool
  | .json, .null => true
  | .toml, .list [] => true
  | .toml, .table [] => true
  | _, _ => false

end Dialect

namespace Value

def bool? : Value → Option Bool
  | .bool value => some value
  | _ => none

def text? : Value → Option String
  | .text value => some value
  | _ => none

def integer? (least greatest : Int) : Value → Option Int
  | .integer value => if least ≤ value ∧ value ≤ greatest then some value else none
  | _ => none

def count? (limit : Nat) (value : Value) : Option Nat :=
  (value.integer? 0 (limit - 1)).map Int.toNat

def optional? {α : Type} (read : Value → Option α) : Value → Option (Option α)
  | .null => some none
  | value => (read value).map some

def list? {α : Type} (read : Value → Option α) : Value → Option (List α)
  | .list items => items.mapM read
  | _ => none

/-- One of a set of names: the name alone, or a table that maps it to what ends a choice. -/
def choice? {α : Type} (dialect : Dialect) (named : String → Option α) : Value → Option α
  | .text name => named name
  | .table [(name, content)] => if dialect.endsChoice content then named name else none
  | _ => none

end Value

/-!
### Fields

A structure is written as a table of named fields. It may also be written as a list of the
fields in the order of the schema, with fields left out at the end only. Items past the last field
are passed over where the notation passes over them.
-/

/-- The fields of a structure that were given, at most once each. -/
abbrev Fields := List (String × Value)

/-- The fields among `names` that a value gives. A table that gives one of them twice is refused;
members with other names are passed over. -/
def Value.fields? (dialect : Dialect) (names : List String) : Value → Option Fields
  | .table members =>
    let known := members.filter fun member => names.contains member.1
    if (known.map Prod.fst).Nodup then some known else none
  | .list items =>
    if dialect.passesSurplus ∨ items.length ≤ names.length then some (names.zip items) else none
  | _ => none

/-- The fields of a structure that admits no other names and no missing field at the end of a
list. -/
def Value.exactFields? (names : List String) : Value → Option Fields
  | .table members =>
    if (members.map Prod.fst).Nodup ∧ members.all (fun member => names.contains member.1) then
      some members
    else none
  | .list items => if items.length = names.length then some (names.zip items) else none
  | _ => none

namespace Fields

def required {α : Type} (fields : Fields) (name : String) (read : Value → Option α) : Option α :=
  (fields.lookup name).bind read

def withDefault {α : Type} (fields : Fields) (name : String) (default : α)
    (read : Value → Option α) : Option α :=
  match fields.lookup name with
  | none => some default
  | some value => read value

end Fields

end QueryJournal.Document
