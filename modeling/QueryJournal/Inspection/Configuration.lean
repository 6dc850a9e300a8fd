import QueryJournal.Logging.Config
import QueryJournal.Settings.Basic
import QueryJournal.Toml.Printer
import QueryJournal.Toml.Reader

namespace QueryJournal.Inspection

open QueryJournal.Document

/-!
The configuration file: the settings of the log, and how the program tells of what happens.
-/

/-- What a configuration file says. -/
structure Configuration where
  settings : Settings := {}
  logging : Option Logging.Config := none
  deriving DecidableEq

namespace Configuration

def tableNames : List String :=
  ["querylog", "log"]

/-- Reads a configuration; tables that are not given take their defaults. -/
def ofValue? (value : Value) : Option Configuration := do
  let fields ← value.fields? .toml tableNames
  let default : Configuration := {}
  let settings ← fields.withDefault "querylog" default.settings (Settings.ofValue? .toml)
  let logging ←
    fields.withDefault "log" default.logging (Value.optional? (Logging.Config.ofValue? .toml))
  pure { settings, logging }

def parse? (text : String) : Option Configuration :=
  (Toml.parse? text.toList).bind ofValue?

def members (configuration : Configuration) : List (String × Value) :=
  [("querylog", configuration.settings.toValue),
    ("log", match configuration.logging with
      | none => .null
      | some logging => logging.toValue)]

def text (configuration : Configuration) : String :=
  String.ofList (Toml.render configuration.members)

def inDirectory (directory : Option String) (configuration : Configuration) : Configuration :=
  { configuration with
    settings :=
      { configuration.settings with
        directory := directory.getD configuration.settings.directory } }

/-- The settings under which a log can be looked at without changing it: nothing is recorded and
no segment is removed. -/
def inspectionSettings (directory : Option String) (configuration : Configuration) : Settings :=
  { (configuration.inDirectory directory).settings with
    enabled := false
    fileEnabled := true
    keptSegments := none }

end Configuration

end QueryJournal.Inspection
