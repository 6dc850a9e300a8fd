import QueryJournal.Document.Value

namespace QueryJournal

open QueryJournal.Document

/-!
The settings of a log as they are written in a configuration.
-/

/-- Settings that nothing has checked yet. -/
structure Settings where
  enabled : Bool := true
  fileEnabled : Bool := true
  intervalHours : Nat := 2160
  memorySize : Nat := 1000
  directory : String := "./data/querylog"
  ignored : List String := []
  masksClients : Bool := false
  keptSegments : Option Nat := none
  deriving DecidableEq, Inhabited

namespace Settings

def fieldNames : List String :=
  ["enabled", "file_enabled", "interval_hours", "size_memory", "dir", "ignored",
    "anonymize_client_ip", "max_rotated_files"]

def toValue (settings : Settings) : Value :=
  .table
    [("enabled", .bool settings.enabled), ("file_enabled", .bool settings.fileEnabled),
      ("interval_hours", .integer settings.intervalHours),
      ("size_memory", .integer settings.memorySize), ("dir", .text settings.directory),
      ("ignored", .list (settings.ignored.map .text)),
      ("anonymize_client_ip", .bool settings.masksClients),
      ("max_rotated_files", match settings.keptSegments with
        | none => .null
        | some count => .integer count)]

/-- Reads settings; fields that are not given take their defaults. -/
def ofValue? (dialect : Dialect) (value : Value) : Option Settings := do
  let fields ← value.fields? dialect fieldNames
  let default : Settings := {}
  let enabled ← fields.withDefault "enabled" default.enabled Value.bool?
  let fileEnabled ← fields.withDefault "file_enabled" default.fileEnabled Value.bool?
  let intervalHours ←
    fields.withDefault "interval_hours" default.intervalHours (Value.count? UInt64.size)
  let memorySize ← fields.withDefault "size_memory" default.memorySize (Value.count? UInt64.size)
  let directory ← fields.withDefault "dir" default.directory Value.text?
  let ignored ← fields.withDefault "ignored" default.ignored (Value.list? Value.text?)
  let masksClients ←
    fields.withDefault "anonymize_client_ip" default.masksClients Value.bool?
  let keptSegments ←
    fields.withDefault "max_rotated_files" default.keptSegments
      (Value.optional? (Value.count? UInt64.size))
  pure
    { enabled, fileEnabled, intervalHours, memorySize, directory, ignored, masksClients,
      keptSegments }

end Settings

end QueryJournal
