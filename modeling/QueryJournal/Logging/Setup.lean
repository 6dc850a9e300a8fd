import QueryJournal.Logging.Config
import QueryJournal.Logging.Filter

namespace QueryJournal.Logging

/-!
From a configuration to the outputs that are in use. A filter given from outside takes the place
of the configured one, unless it cannot be read.
-/

/-- Why there is no output: the filter cannot be read, the directory of files cannot be made, a
file cannot be begun, or another output is in use already. -/
inductive SetupFault where
  | filter
  | directory
  | file (cause : String)
  | taken
  deriving DecidableEq, Repr

/-- The outputs in use. -/
structure Setup where
  filter : Filter
  console : Option ConsoleOutput
  lines : LineForm
  file : Option FileOutput

namespace SetupFault

def message : SetupFault → String
  | .filter => "Invalid log filter"
  | .directory => "Log directory error"
  | .file cause => "Log file error: " ++ cause
  | .taken => "Global subscriber already set"

end SetupFault

namespace Setup

def filter? (given : Option String) (config : Config) : Option Filter :=
  match given.bind Filter.parse? with
  | some filter => some filter
  | none => Filter.parse? config.directives

def ofConfig (given : Option String) (config : Config) : Except SetupFault Setup :=
  match filter? given config with
  | none => .error .filter
  | some filter =>
    .ok
      { filter
        console := if config.console.enabled then some config.console else none
        lines := config.lines
        file := config.file }

/-- Puts outputs to use, which can happen once in a program. -/
def install (taken : Bool) (setup : Setup) : Except SetupFault Setup :=
  if taken then .error .taken else .ok setup

def written (setup : Setup) (events : List Event) : List Event :=
  events.filter setup.filter.admits

end Setup

end QueryJournal.Logging
