import QueryJournal.Host.IgnoreList
import QueryJournal.Settings.Basic
import QueryJournal.Text.Numeral

namespace QueryJournal

/-!
Checked settings. The checks are made in the order of the fields and the first failure is the
one that is reported.
-/

/-- What is wrong with settings. -/
inductive SettingsFault where
  | interval (hours : Nat)
  | memorySize
  | retention
  | ignored (fault : IgnoreFault)
  deriving DecidableEq, Repr

def IgnoreFault.entryName (index : Nat) : String :=
  "querylog.ignored[" ++ String.ofList (Numeral.decimal index) ++ "]"

def IgnoreFault.message : IgnoreFault → String
  | .empty index => entryName index ++ ": empty host"
  | .malformed index entry fault =>
    entryName index ++ ": malformed host " ++ Text.quoted entry ++ ": " ++ fault.message
  | .duplicate index entry => entryName index ++ ": duplicate host " ++ Text.quoted entry

def SettingsFault.message : SettingsFault → String
  | .interval hours =>
    "querylog.interval_hours: " ++ String.ofList (Numeral.decimal hours) ++
      "h is out of range, must be between 1h and 8760h"
  | .memorySize => "querylog.size_memory: must be positive"
  | .retention => "querylog.max_rotated_files: must be positive when set"
  | .ignored fault => fault.message

def minRotationSeconds : Nat := 3600

def maxRotationSeconds : Nat := 31536000

def maxSeconds : Nat := UInt64.size - 1

/-- What a log does. -/
structure Policy where
  enabled : Bool
  fileEnabled : Bool
  rotationSeconds : Nat
  memorySize : Nat
  directory : String
  ignored : IgnoreList
  masksClients : Bool
  keptSegments : Option Nat
  deriving DecidableEq, Inhabited

namespace Settings

/-- The interval between rotations in seconds; one that cannot be counted is the longest that
can. -/
def rotationSeconds (settings : Settings) : Nat :=
  min (settings.intervalHours * 3600) maxSeconds

def check (settings : Settings) : Except SettingsFault Policy :=
  if settings.rotationSeconds < minRotationSeconds ∨
      maxRotationSeconds < settings.rotationSeconds then
    .error (.interval settings.intervalHours)
  else if settings.memorySize = 0 then .error .memorySize
  else if settings.keptSegments = some 0 then .error .retention
  else
    match IgnoreList.ofEntries settings.ignored with
    | .error fault => .error (.ignored fault)
    | .ok ignored =>
      .ok
        { enabled := settings.enabled
          fileEnabled := settings.fileEnabled
          rotationSeconds := settings.rotationSeconds
          memorySize := settings.memorySize
          directory := settings.directory
          ignored
          masksClients := settings.masksClients
          keptSegments := settings.keptSegments }

end Settings

def Policy.toSettings (policy : Policy) : Settings :=
  { enabled := policy.enabled
    fileEnabled := policy.fileEnabled
    intervalHours := policy.rotationSeconds / 3600
    memorySize := policy.memorySize
    directory := policy.directory
    ignored := policy.ignored.hosts
    masksClients := policy.masksClients
    keptSegments := policy.keptSegments }

end QueryJournal
