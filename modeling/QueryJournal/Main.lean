import QueryJournal.Inspection.Program
import QueryJournal.Logging.Line
import Std.Time.DateTime.Timestamp

namespace QueryJournal.Inspection

open QueryJournal.Storage
open QueryJournal.Time (Instant)

/-!
The command line program: it reads what the program needs from the system, runs it, and prints what
it answers. The clock is read once, before the log is opened.
-/

def filterVariable : String := "LOG_FILTER"

def usage : String :=
  "Usage: qlog [--config FILE] [--dir DIR] [--log-level LEVEL] search|segments|check [OPTIONS]"

def readTime : IO Instant := do
  let time ← Std.Time.Timestamp.now
  pure ((Instant.of? time.val.second.val time.val.nano.val.toNat).getD .epoch)

def readText? (path : String) : IO (Option String) := do
  try
    pure (some (← IO.FS.readFile path))
  catch _ =>
    pure none

def readDirectory? (path : String) : IO (Option Disk) := do
  try
    let place ← IO.FS.realPath path
    let mut disk : Disk := { place := .folder [] }
    for entry in ← place.readDir do
      if ← entry.path.isDir then
        if let .folder nodes := disk.place then
          disk := { disk with place := .folder (nodes ++ [(entry.fileName, .directory)]) }
      else
        let content ← IO.FS.readBinFile entry.path
        disk := (disk.create .none entry.fileName content.toList).2
    pure (some disk)
  catch _ =>
    pure none

/-- Does something, and answers what the system says if that fails. -/
def causeOfFailure? (action : IO Unit) : IO (Option String) := do
  try
    action
    pure none
  catch cause =>
    pure (some (toString cause))

/-- Begins the file of events at a path, and tells why if that fails. -/
def makeEventFile (directory file : String) : IO (Option Logging.SetupFault) := do
  if (← causeOfFailure? (IO.FS.createDirAll directory)).isSome then pure (some .directory)
  else
    let cause ← causeOfFailure? do
      if let some parent := (Path.parents file.toList).head? then
        IO.FS.createDirAll (String.ofList parent)
      discard (IO.FS.Handle.mk file .append)
    pure (cause.map .file)

def readSurroundings (time : Instant) (arguments : List String) : IO Surroundings := do
  let filter ← IO.getEnv filterVariable
  let nothing : Surroundings :=
    { text? := fun _ => none, directory? := fun _ => none, filter
      afterBeginning := fun _ _ => .ok fun _ => none }
  match Invocation.parse arguments with
  | .error _ => pure nothing
  | .ok invocation =>
    let text ← match invocation.configPath with
      | none => pure none
      | some path => readText? path
    let surroundings := { nothing with text? := fun _ => text }
    match Configuration.load surroundings.text? invocation.configPath with
    | .error _ => pure surroundings
    | .ok configuration =>
      let fault ←
        match Logging.Setup.ofConfig filter (loggingOf configuration invocation.level) with
        | .error _ => pure none
        | .ok setup =>
          match setup.file with
          | none => pure none
          | some file => makeEventFile file.directory (file.path time)
      let disk ← readDirectory? (configuration.inspectionSettings invocation.directory).directory
      pure
        { surroundings with
          directory? := fun _ => disk
          afterBeginning := fun _ _ => match fault with
            | some fault => .error fault
            | none => .ok fun _ => disk }

def writeEvents (time : Instant) (setup : Logging.Setup) (events : List Logging.Event) :
    IO Unit := do
  let written := setup.written events
  if let some console := setup.console then
    for event in written do
      IO.eprintln (console.line setup.lines time event)
  if let some file := setup.file then
    let handle ← IO.FS.Handle.mk (file.path time) .append
    for event in written do
      handle.putStrLn (event.jsonLine setup.lines time)

def writeRefusal (refusal : Refusal) : IO Unit := do
  match refusal with
  | .usage .help => IO.println usage
  | .usage _ => IO.eprintln usage
  | _ =>
    IO.eprintln ("Error: " ++ refusal.message)
    if let some cause := refusal.cause? then
      IO.eprintln ("\nCaused by:\n    " ++ cause)

def program (arguments : List String) : IO UInt32 := do
  let time ← readTime
  let surroundings ← readSurroundings time arguments
  let clock ← IO.monoMsNow
  match run surroundings { clock := fun _ => clock, occasion := { now := time } } arguments with
  | .error refusal =>
    writeRefusal refusal
    pure (UInt32.ofNat refusal.exitCode)
  | .ok (setup, printed) =>
    writeEvents time setup printed.events
    IO.print printed.output
    IO.eprint printed.summary
    pure 0

end QueryJournal.Inspection

def main (arguments : List String) : IO UInt32 :=
  QueryJournal.Inspection.program arguments
