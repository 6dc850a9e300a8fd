import QueryJournal.Logging.Directive

namespace QueryJournal.Logging

/-!
Which events are written. A filter is a list of directives with commas between. A span that some
directive describes lets the events during it through up to the threshold of that directive; about
other events the directive decides that describes them most closely.
-/

abbrev Filter := List Directive

namespace Filter

/-- The filter of a text without directives: errors are written. -/
def default : Filter :=
  [{ threshold := some .error }]

/-- Reads a filter; parts without any character are passed over. -/
def parse? (text : String) : Option Filter :=
  (((text.toList.splitOn ',').filter fun part => !part.isEmpty).mapM Directive.parse?).map
    fun directives => if directives.isEmpty then default else directives

def closer (best : Option Directive) (next : Directive) : Option Directive :=
  match best with
  | none => some next
  | some best => if next.isVaguer best then some best else some next

/-- The directive that decides about an event without regard to its span. -/
def deciding? (filter : Filter) (event : Event) : Option Directive :=
  (filter.filter fun directive => directive.concerns event).foldl closer none

/-- The severity up to which spans are taken note of. The value of a field is known only once its
span is, so a directive with a value makes every span be taken note of. -/
def reach (filter : Filter) : Threshold :=
  if filter.any fun directive => directive.field.any fun test => test.value.isSome then some .trace
  else Threshold.greatest (filter.map Directive.threshold)

/-- The severity up to which the events during a span are written whatever else holds. -/
def openness (filter : Filter) (span : Span) : Threshold :=
  if filter.reach.admits span.level then
    Threshold.greatest
      ((filter.filter fun directive => directive.opens span).map Directive.threshold)
  else none

def admits (filter : Filter) (event : Event) : Bool :=
  (event.span.any fun span => (filter.openness span).admits event.level) ||
    (filter.deciding? event).any fun directive => directive.threshold.admits event.level

end Filter

end QueryJournal.Logging
