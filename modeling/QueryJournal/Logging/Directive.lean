import QueryJournal.Logging.Event
import QueryJournal.Logging.Threshold
import QueryJournal.Pattern.Reader

namespace QueryJournal.Logging

open QueryJournal.Text (isLetterOrNumeral trim)

/-!
The parts of a filter. `a::b[span{field=value}]=level` is about what happens in the part `a::b` of
the program during a span of that name with such a field; each part but one may be left out.
-/

/-- What the value of a field is compared with: a truth value or a number, which no text is equal
to, or a pattern that the text has to reach the end of. -/
inductive FieldValue where
  | literal
  | matching (pattern : Pattern)
  deriving DecidableEq, Repr

/-- A field that there has to be, with its value if that matters. -/
structure FieldTest where
  name : List Char
  value : Option FieldValue
  deriving DecidableEq, Repr

/-- A part of a filter: the threshold of what is described by the start of a target, a span and a
field. -/
structure Directive where
  target : Option (List Char) := none
  span : Option (List Char) := none
  field : Option FieldTest := none
  threshold : Threshold
  deriving DecidableEq, Repr

namespace FieldValue

def parse? (text : List Char) : Option FieldValue :=
  if text == "true".toList || text == "false".toList || Numeral.isReal text then some .literal
  else (Pattern.parse? text).map .matching

def accepts (text : String) : FieldValue → Bool
  | .literal => false
  | .matching pattern => pattern.reachesEnd text.toList

end FieldValue

namespace FieldTest

/-- Reads a name, and a value after an equals sign. A second equals sign ends the value. -/
def parse? (text : List Char) : Option FieldTest :=
  match text.splitOn '=' with
  | name :: value :: _ =>
    (FieldValue.parse? value).map fun value => { name, value := some value }
  | _ => if text.isEmpty then none else some { name := text, value := none }

def isAmong (names : List String) (test : FieldTest) : Bool :=
  names.any fun name => name.toList == test.name

def accepts (fields : List (String × String)) (test : FieldTest) : Bool :=
  fields.any fun (name, text) =>
    name.toList == test.name && test.value.all fun value => value.accepts text

end FieldTest

namespace Directive

/-- Whether a directive can begin with a character: with a letter, a numeral or one of three
marks. -/
def canBegin (c : Char) : Bool :=
  isLetterOrNumeral c || c == '-' || c == ':' || c == '_'

/-- Reads the threshold after the equals sign. Without any the threshold lets everything through. -/
def threshold? (text : List Char) : Option Threshold :=
  if text.isEmpty then some (some .trace) else Threshold.named? text

def placeOf? (cls : Char → Bool) (start : Nat) (text : List Char) : Option Nat :=
  ((text.drop start).findIdx? cls).map (start + ·)

/-- Reads what may follow the description of a span at a place: nothing, or a threshold. `bare` is
the text without blanks at its ends. -/
def ofThreshold? (text bare : List Char) (place : Nat) : Option Threshold :=
  match bare[place]? with
  | none => some (some .trace)
  | some '=' => threshold? (text.drop (place + 1))
  | some _ => none

def ofSpan? (text bare : List Char) (target : Option (List Char)) (start : Nat) :
    Option Directive := do
  let stop ← placeOf? (fun c => c == ']' || c == '\x7b') start bare
  let name := text.extract start stop
  if bare[stop]? = some ']' then
    pure { target, span := some name, threshold := ← ofThreshold? text bare (stop + 1) }
  else
    let close ← placeOf? (· == '\x7d') (stop + 1) bare
    let field ← FieldTest.parse? (text.extract (stop + 1) close)
    let threshold ← ofThreshold? text bare (close + 2)
    if bare[close + 1]? = some ']' then
      pure
        { target, span := if name.isEmpty then none else some name, field := some field, threshold }
    else none

/-- Reads a directive. Its marks are looked for in the text without blanks at its ends, but its
parts are cut out at their places in the text as it is given. -/
def parse? (text : List Char) : Option Directive := do
  let bare := trim text
  let first ← bare.head?
  if first == '[' then ofSpan? text bare none 1
  else if canBegin first then
    match placeOf? (fun c => c == '=' || c == '[') 0 bare with
    | none =>
      match Threshold.named? text with
      | some threshold => pure { threshold }
      | none => pure { target := some text, threshold := some .trace }
    | some place =>
      let target := some (text.take place)
      if bare[place]? = some '[' then ofSpan? text bare target (place + 1)
      else pure { target, threshold := ← threshold? (text.drop (place + 1)) }
  else none

/-- Whether a directive can decide about an event without regard to the span of it. -/
def isStatic (directive : Directive) : Bool :=
  directive.span.isNone && directive.field.all fun test => test.value.isNone

def isDynamic (directive : Directive) : Bool :=
  directive.span.isSome || directive.field.isSome

def concernsTarget (target : String) (directive : Directive) : Bool :=
  directive.target.all fun start => start.isPrefixOf target.toList

def concerns (event : Event) (directive : Directive) : Bool :=
  directive.isStatic && directive.concernsTarget event.target &&
    directive.field.all fun test => test.isAmong event.fieldNames

/-- Whether a directive lets the events during a span through, up to its threshold. -/
def opens (span : Span) (directive : Directive) : Bool :=
  directive.isDynamic && directive.concernsTarget span.target &&
    (directive.span.all fun name => name == span.name.toList) &&
    directive.field.all fun test => test.accepts span.fields

/-- How closely a directive describes the events that it is about: first by the length of its
target, then by its field. -/
def closeness (directive : Directive) : Nat × List Char :=
  (match directive.target with
    | none => 0
    | some target => target.length + 1,
    match directive.field with
    | none => []
    | some test => test.name)

def isVaguer (left right : Directive) : Bool :=
  let (length, field) := left.closeness
  let (otherLength, otherField) := right.closeness
  length < otherLength || (length == otherLength && decide (field < otherField))

end Directive

end QueryJournal.Logging
