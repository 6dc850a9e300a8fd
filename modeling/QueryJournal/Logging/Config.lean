import QueryJournal.Document.Value

namespace QueryJournal.Logging

open QueryJournal.Document

/-!
How the program tells of what happens: how grave an event has to be, where events are written and
in which form. Levels are texts here; `Logging.Filter` reads them.
-/

/-- The output on the console. -/
structure ConsoleOutput where
  enabled : Bool := true
  pretty : Bool := false
  colored : Bool := false
  onErrorStream : Bool := false
  deriving DecidableEq, Repr

/-- When a file of events is followed by the next one. -/
inductive Rotation where
  | daily
  | hourly
  | never
  deriving DecidableEq, Repr

/-- The output in files: their directory, how their names start, and when they change. -/
structure FileOutput where
  directory : String := "./logs"
  nameStart : String := "quell"
  rotation : Rotation := .daily
  deriving DecidableEq, Repr

/-- The form of an event on a line of its own. -/
structure LineForm where
  flattensFields : Bool := true
  includesSpans : Bool := true
  includesLocation : Bool := true
  deriving DecidableEq, Repr

/-- The levels of targets, by target, each target once and in the order of the targets. -/
abbrev TargetLevels := List (String × String)

/-- The configuration of the output of events. -/
structure Config where
  level : String := "info"
  console : ConsoleOutput := {}
  file : Option FileOutput := none
  lines : LineForm := {}
  targets : TargetLevels := []
  deriving DecidableEq, Repr

namespace ConsoleOutput

def fieldNames : List String :=
  ["enabled", "pretty", "ansi", "stderr"]

def toValue (console : ConsoleOutput) : Value :=
  .table
    [("enabled", .bool console.enabled), ("pretty", .bool console.pretty),
      ("ansi", .bool console.colored), ("stderr", .bool console.onErrorStream)]

/-- Reads an output; fields that are not given take their defaults. -/
def ofValue? (dialect : Dialect) (value : Value) : Option ConsoleOutput := do
  let fields ← value.fields? dialect fieldNames
  let default : ConsoleOutput := {}
  let enabled ← fields.withDefault "enabled" default.enabled Value.bool?
  let pretty ← fields.withDefault "pretty" default.pretty Value.bool?
  let colored ← fields.withDefault "ansi" default.colored Value.bool?
  let onErrorStream ← fields.withDefault "stderr" default.onErrorStream Value.bool?
  pure { enabled, pretty, colored, onErrorStream }

end ConsoleOutput

namespace Rotation

def name : Rotation → String
  | .daily => "daily"
  | .hourly => "hourly"
  | .never => "never"

def all : List Rotation :=
  [.daily, .hourly, .never]

def named? (name : String) : Option Rotation :=
  all.find? fun rotation => rotation.name = name

theorem named?_name (rotation : Rotation) : named? rotation.name = some rotation := by
  cases rotation <;> decide

end Rotation

namespace FileOutput

def fieldNames : List String :=
  ["directory", "prefix", "rotation"]

def toValue (file : FileOutput) : Value :=
  .table
    [("directory", .text file.directory), ("prefix", .text file.nameStart),
      ("rotation", .text file.rotation.name)]

/-- Reads an output; fields that are not given take their defaults. -/
def ofValue? (dialect : Dialect) (value : Value) : Option FileOutput := do
  let fields ← value.fields? dialect fieldNames
  let default : FileOutput := {}
  let directory ← fields.withDefault "directory" default.directory Value.text?
  let nameStart ← fields.withDefault "prefix" default.nameStart Value.text?
  let rotation ←
    fields.withDefault "rotation" default.rotation (Value.choice? dialect Rotation.named?)
  pure { directory, nameStart, rotation }

end FileOutput

namespace LineForm

def fieldNames : List String :=
  ["flatten_events", "include_spans", "include_location"]

def toValue (lines : LineForm) : Value :=
  .table
    [("flatten_events", .bool lines.flattensFields), ("include_spans", .bool lines.includesSpans),
      ("include_location", .bool lines.includesLocation)]

/-- Reads a form; fields that are not given take their defaults. -/
def ofValue? (dialect : Dialect) (value : Value) : Option LineForm := do
  let fields ← value.fields? dialect fieldNames
  let default : LineForm := {}
  let flattensFields ←
    fields.withDefault "flatten_events" default.flattensFields Value.bool?
  let includesSpans ← fields.withDefault "include_spans" default.includesSpans Value.bool?
  let includesLocation ←
    fields.withDefault "include_location" default.includesLocation Value.bool?
  pure { flattensFields, includesSpans, includesLocation }

end LineForm

namespace TargetLevels

def insert (target level : String) : TargetLevels → TargetLevels
  | [] => [(target, level)]
  | (first, old) :: rest =>
    if target < first then (target, level) :: (first, old) :: rest
    else if target = first then (target, level) :: rest
    else (first, old) :: insert target level rest

def toValue (targets : TargetLevels) : Value :=
  .table (targets.map fun (target, level) => (target, .text level))

/-- Reads levels, each of which is a text. Of two levels of one target the last one counts. -/
def ofValue? : Value → Option TargetLevels
  | .table members =>
    members.foldlM
      (fun targets (target, value) => value.text?.map fun level => insert target level targets) []
  | _ => none

end TargetLevels

namespace Config

def fieldNames : List String :=
  ["default_level", "console", "file", "jsonl", "targets"]

def toValue (config : Config) : Value :=
  .table
    [("default_level", .text config.level), ("console", config.console.toValue),
      ("file", match config.file with
        | none => .null
        | some file => file.toValue),
      ("jsonl", config.lines.toValue), ("targets", config.targets.toValue)]

/-- Reads a configuration; fields that are not given take their defaults. -/
def ofValue? (dialect : Dialect) (value : Value) : Option Config := do
  let fields ← value.fields? dialect fieldNames
  let default : Config := {}
  let level ← fields.withDefault "default_level" default.level Value.text?
  let console ← fields.withDefault "console" default.console (ConsoleOutput.ofValue? dialect)
  let file ←
    fields.withDefault "file" default.file (Value.optional? (FileOutput.ofValue? dialect))
  let lines ← fields.withDefault "jsonl" default.lines (LineForm.ofValue? dialect)
  let targets ← fields.withDefault "targets" default.targets TargetLevels.ofValue?
  pure { level, console, file, lines, targets }

def development : Config :=
  { level := "debug", console := { pretty := true, colored := true } }

def service (directory : String) : Config :=
  { console := { enabled := false }, file := some { directory } }

def quiet : Config :=
  { level := "warn" }

/-- The filter of the configuration as a text: the level, then the levels of targets. -/
def directives (config : Config) : String :=
  ",".intercalate
    (config.level :: config.targets.map fun (target, level) => target ++ "=" ++ level)

end Config

end QueryJournal.Logging
