import QueryJournal.Logging.Event
import QueryJournal.Search.Criterion

namespace QueryJournal.Search

open QueryJournal.Time (Instant)

/-!
What a search asks for and the page that it answers. Entries come one by one, newest first; those
that match are counted, and those of the page are kept.
-/

/-- A search: the conditions on entries, how many matches to pass over, how many to answer at
most, how many lines to inspect in each file (zero for all), the time before which entries have to
lie, and the time at which to give up. -/
structure Request where
  criteria : List Criterion := []
  offset : Nat := 0
  limit : Nat := 500
  scanCap : Nat := 50000
  olderThan : Option Instant := none
  deadline : Option Nat := none
  deriving DecidableEq

def Request.admits (request : Request) (entry : Entry) : Bool :=
  (match request.olderThan with
    | none => true
    | some time => entry.time.isBefore time) &&
    request.criteria.all fun criterion => criterion.admits entry

/-- The answer to a search: a page of entries, newest first, how many matched in all, the time of
the oldest entry of the page, how many lines could not be read, and whether the search gave up. -/
structure Page where
  entries : List Entry
  matched : Nat
  oldest : Option Instant
  skipped : Nat
  truncated : Bool
  deriving DecidableEq

abbrev Clock := Nat → Nat

/-- A search under way. The entries of the page and the events are held last first; `looks` counts
the readings of the clock. -/
structure Collector where
  found : List Entry := []
  matched : Nat := 0
  skipped : Nat := 0
  truncated : Bool := false
  looks : Nat := 0
  events : List Logging.Event := []
  deriving DecidableEq

namespace Collector

def offer (request : Request) (collector : Collector) (entry : Entry) : Collector :=
  if request.admits entry then
    let index := collector.matched
    let onPage := request.offset ≤ index ∧ index - request.offset < request.limit
    { collector with
      matched := index + 1
      found := if onPage then entry :: collector.found else collector.found }
  else collector

def skip (collector : Collector) : Collector :=
  { collector with skipped := collector.skipped + 1 }

def tell (level : Logging.Level) (message detail : String) (collector : Collector) : Collector :=
  let event : Logging.Event :=
    { level, target := "quell_querylog::search", message, details := ["path", detail] }
  { collector with events := event :: collector.events }

/-- Looks at the clock, unless there is no deadline or it is known to have passed. -/
def look (clock : Clock) (request : Request) (collector : Collector) : Collector :=
  match request.deadline with
  | none => collector
  | some deadline =>
    if collector.truncated then collector
    else
      { collector with
        truncated := deadline ≤ clock collector.looks
        looks := collector.looks + 1 }

def page (collector : Collector) : Page :=
  { entries := collector.found.reverse
    matched := collector.matched
    oldest := collector.found.head?.map Entry.time
    skipped := collector.skipped
    truncated := collector.truncated }

end Collector

end QueryJournal.Search
