import QueryJournal.Record.Line
import QueryJournal.Search.Page
import QueryJournal.Segment.Backward

namespace QueryJournal.Search

open QueryJournal.Backward

/-!
A search over the entries in memory and the files of a log, both newest first. Each file is read
backwards, so the stream of entries needs no sorting. The clock is looked at before each file and
before each line, and the first look after the deadline ends the search.
-/

namespace Collector

def takeLine (request : Request) (collector : Collector) (bytes : Utf8.Bytes) : Collector :=
  match Entry.ofLine? bytes with
  | some entry => collector.offer request entry
  | none => collector.skip.tell .debug "Skipping corrupt record" "error"

/-- Takes in the lines of a file, of which `inspected` were already taken in. -/
def takeLines (clock : Clock) (request : Request) (collector : Collector) (inspected : Nat)
    (reader : Reader) : Collector :=
  if request.scanCap ≠ 0 ∧ request.scanCap ≤ inspected then
    collector.tell .debug "Scanned segment" "inspected"
  else
    let collector := collector.look clock request
    if collector.truncated then collector
    else
      match found : reader.next with
      | (none, _) => collector.tell .debug "Scanned segment" "inspected"
      | (some .unreadable, _) =>
        (collector.tell .warn "Aborting segment scan" "error").tell .debug "Scanned segment"
          "inspected"
      | (some (.oversized _), after) =>
        takeLines clock request (collector.skip.tell .debug "Skipping unreadable record" "error")
          (inspected + 1) after
      | (some (.line bytes), after) =>
        takeLines clock request (collector.takeLine request bytes) (inspected + 1) after
termination_by reader.size
decreasing_by
  all_goals exact Reader.next_size_lt found (by simp)

/-- Takes in a file, which may be one that cannot be opened. -/
def takeFile (clock : Clock) (request : Request) (collector : Collector) (file : Option Reader) :
    Collector :=
  let collector := collector.look clock request
  if collector.truncated then collector
  else
    match file with
    | none => collector.tell .warn "Skipping unreadable segment" "error"
    | some reader => collector.takeLines clock request 0 reader

end Collector

/-- What a search comes to: its answer, and what happened on the way. -/
structure Report where
  page : Page
  events : List Logging.Event
  deriving DecidableEq

def collect (clock : Clock) (request : Request) (memory : List Entry)
    (files : List (Option Reader)) : Collector :=
  files.foldl (Collector.takeFile clock request) (memory.foldl (Collector.offer request) {})

/-- Searches entries in memory and files, both newest first. -/
def run (clock : Clock) (request : Request) (memory : List Entry) (files : List (Option Reader)) :
    Report :=
  let collector := collect clock request memory files
  { page := collector.page, events := collector.events.reverse }

end QueryJournal.Search
