import QueryJournal.Inspection.Configuration
import QueryJournal.Inspection.Listing
import QueryJournal.Journal.Basic

namespace QueryJournal.Inspection

open QueryJournal.Logging (Event Level Span)
open QueryJournal.Storage

/-!
The commands. A log is opened so that nothing is recorded and no segment is removed; it is then
searched or listed, and closed.
-/

/-- Why a command fails. -/
inductive Problem where
  | unreadableFile (path : String)
  | invalidFile (path : String)
  | missingDirectory (path : String)
  | settings (fault : SettingsFault)
  | opening (path : String) (failure : Failure)
  | searching (failure : Failure)
  | closing (failure : Failure)
  deriving DecidableEq, Repr

namespace Problem

def message : Problem → String
  | .unreadableFile path => "Failed to read " ++ path
  | .invalidFile path => "Invalid configuration in " ++ path
  | .missingDirectory path => "No query log directory at " ++ path
  | .settings _ => "Invalid [querylog] settings"
  | .opening path _ => "Failed to open query log in " ++ path
  | .searching _ => "Search failed"
  | .closing failure => failure.message

def cause? : Problem → Option String
  | .settings fault => some fault.message
  | .opening _ failure => some failure.message
  | .searching failure => some failure.message
  | _ => none

end Problem

def commandEvent (level : Level) (message : String) (details : List String) : Event :=
  { level, target := "quell_qlog::commands", message, details }

def journalTarget : String := "quell_querylog::querylog"

def journalEvent (level : Level) (message : String) (details : List String := []) : Event :=
  { level, target := journalTarget, message, details }

def discoveryEvent (level : Level) (message : String) (details : List String) : Event :=
  { level, target := "quell_querylog::disk::segment", message, details }

def openingSpan (directory : String) : Span :=
  { name := "open", target := journalTarget, level := .info, fields := [("dir", directory)] }

def closingSpan : Span :=
  { name := "close", target := journalTarget, level := .info }

/-- An opened log and its directory, with what has happened so far. -/
structure Opened where
  journal : Journal
  disk : Disk
  events : List Event

/-- What a command prints on the output and as totals, and what has happened. -/
structure Printed where
  output : String := ""
  summary : String := ""
  events : List Event := []
  deriving DecidableEq

def openingEvents (directory : String) (disk : Disk) : List Event :=
  let names := (disk.list).toOption.getD []
  let ignored := (Segment.unrecognized directory names).map fun _ =>
    discoveryEvent .warn "Ignoring unrecognized segment file" ["path"]
  Event.during (openingSpan directory)
      (ignored ++
        [discoveryEvent .debug "Discovered segments" ["dir", "count"],
          journalEvent .info "Query log opened" ["segments", "pruned", "file_enabled"]]) ++
    [commandEvent .debug "Opened query log for inspection" ["segments"]]

def closingEvents : List Event :=
  Event.during closingSpan [journalEvent .info "Query log closed"]

def openLog (configuration : Configuration) (directory : Option String)
    (directory? : String → Option Disk) : Except Problem Opened :=
  let settings := configuration.inspectionSettings directory
  match directory? settings.directory with
  | none => .error (.missingDirectory settings.directory)
  | some disk =>
    match settings.check with
    | .error fault => .error (.settings fault)
    | .ok policy =>
      match Journal.openOn policy .none disk with
      | (.error failure, _) => .error (.opening settings.directory failure)
      | (.ok journal, after) =>
        .ok { journal, disk := after, events := openingEvents settings.directory disk }

def search (clock : Search.Clock) (options : SearchOptions) (opened : Opened) :
    Except Problem Printed :=
  match opened.journal.search clock (options.request (clock 0)) opened.disk with
  | .error failure => .error (.searching failure)
  | .ok report =>
    .ok
      { output := entryLines options.form report.page.entries
        summary := summaryLine report.page
        events :=
          report.events ++
            [journalEvent .debug "Search finished"
              ["matched", "returned", "skipped", "truncated"]] ++
            if 0 < report.page.skipped then
              [commandEvent .warn "Some records could not be decoded" ["skipped"]]
            else [] }

/-- Lists the segments of a log, oldest first. -/
def segments (opened : Opened) : Printed :=
  let listed := opened.journal.segments.map fun status =>
    (status, opened.disk.size? status.segment.name)
  { output :=
      String.join (listed.map fun (status, size) =>
        segmentLine status.segment status.active size)
    events :=
      (listed.filter fun (_, size) => size.isNone).map fun _ =>
        commandEvent .warn "Cannot stat segment" ["path", "error"] }

def check (configuration : Configuration) (directory : Option String) : Except Problem Printed :=
  let configuration := configuration.inDirectory directory
  match configuration.settings.check with
  | .error fault => .error (.settings fault)
  | .ok _ => .ok { output := configuration.text }

def Opened.close (occasion : Occasion) (opened : Opened) : Outcome Unit :=
  opened.journal.close occasion opened.disk

def closeAfter (occasion : Occasion) (opened : Opened) (printed : Printed) :
    Except Problem Printed :=
  match (opened.close occasion).answer with
  | .error failure => .error (.closing failure)
  | .ok () =>
    .ok
      { printed with events := opened.events ++ printed.events ++ closingEvents }

end QueryJournal.Inspection
