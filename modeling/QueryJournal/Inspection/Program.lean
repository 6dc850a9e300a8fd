import QueryJournal.Inspection.Commands
import QueryJournal.Inspection.Surroundings
import QueryJournal.Logging.Line

namespace QueryJournal.Inspection

open QueryJournal.Storage

/-!
The whole program as a function of its arguments and of what it finds around it.
-/

/-- When the program runs, and what happens to the directory of the log after it was opened. -/
structure Course where
  clock : Search.Clock
  occasion : Occasion
  meanwhile : Disk → Disk := id

/-- Why the program ends early. -/
inductive Refusal where
  | usage (fault : UsageFault)
  | problem (problem : Problem)
  | setup (fault : Logging.SetupFault)
  deriving DecidableEq, Repr

namespace Refusal

/-- The number with which the program ends. Help that was asked for is no failure. -/
def exitCode : Refusal → Nat
  | .usage .help => 0
  | .usage _ => 2
  | _ => 1

/-- The wording of a refusal; the usage is told elsewhere. -/
def message : Refusal → String
  | .usage _ => ""
  | .problem cause => cause.message
  | .setup fault => fault.message

/-- The wording of what is behind a refusal. -/
def cause? : Refusal → Option String
  | .problem cause => cause.cause?
  | _ => none

end Refusal

def Configuration.load (text? : String → Option String) (path : Option String) :
    Except Problem Configuration :=
  match path with
  | none => .ok {}
  | some path =>
    match text? path with
    | none => .error (.unreadableFile path)
    | some text =>
      match Configuration.parse? text with
      | none => .error (.invalidFile path)
      | some configuration => .ok configuration

/-- The output of events: the configured one or a quiet one, with the level of the arguments, and
never on the stream of the records. -/
def loggingOf (configuration : Configuration) (level : Option String) : Logging.Config :=
  let logging := configuration.logging.getD .quiet
  { logging with
    level := level.getD logging.level
    console := { logging.console with onErrorStream := true } }

def withLog (directory? : String → Option Disk) (course : Course) (configuration : Configuration)
    (directory : Option String) (action : Opened → Except Problem Printed) :
    Except Problem Printed := do
  let opened ← openLog configuration directory directory?
  let opened := { opened with disk := course.meanwhile opened.disk }
  closeAfter course.occasion opened (← action opened)

def perform (directory? : String → Option Disk) (course : Course) (configuration : Configuration)
    (invocation : Invocation) : Except Problem Printed :=
  match invocation.command with
  | .check => check configuration invocation.directory
  | .segments =>
    withLog directory? course configuration invocation.directory fun opened =>
      .ok (segments opened)
  | .search options =>
    withLog directory? course configuration invocation.directory fun opened =>
      search course.clock options opened

/-- Puts outputs of events to use, and answers the directories that there are then. -/
def beginOutput (surroundings : Surroundings) (now : Time.Instant) (setup : Logging.Setup) :
    Except Logging.SetupFault (String → Option Disk) :=
  match setup.file with
  | none => .ok surroundings.directory?
  | some file => surroundings.afterBeginning file.directory (file.path now)

/-- Runs the program: what it prints, and the outputs on which its events are written. -/
def run (surroundings : Surroundings) (course : Course) (arguments : List String) :
    Except Refusal (Logging.Setup × Printed) := do
  let invocation ← (Invocation.parse arguments).mapError .usage
  let configuration ←
    (Configuration.load surroundings.text? invocation.configPath).mapError .problem
  let setup ←
    (Logging.Setup.ofConfig surroundings.filter
      (loggingOf configuration invocation.level)).mapError .setup
  let directory? ← (beginOutput surroundings course.occasion.now setup).mapError .setup
  let printed ← (perform directory? course configuration invocation).mapError .problem
  pure (setup, printed)

end QueryJournal.Inspection
