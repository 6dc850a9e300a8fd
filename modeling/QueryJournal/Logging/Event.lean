import QueryJournal.Logging.Level

namespace QueryJournal.Logging

/-!
What happens: events, and the spans of work during which they happen.
-/

/-- A span of work: its name, the part of the program that does it, its severity, and its fields
with their texts. -/
structure Span where
  name : String
  target : String
  level : Level
  fields : List (String × String) := []
  deriving DecidableEq, Repr

/-- Something that happened: its severity, the part of the program that tells of it, the message,
the names of what is told besides, and the span of work during which it happened. -/
structure Event where
  level : Level
  target : String
  message : String
  details : List String := []
  span : Option Span := none
  deriving DecidableEq, Repr

namespace Event

def fieldNames (event : Event) : List String :=
  "message" :: event.details

def during (span : Span) (events : List Event) : List Event :=
  events.map fun event => { event with span := some span }

end Event

end QueryJournal.Logging
