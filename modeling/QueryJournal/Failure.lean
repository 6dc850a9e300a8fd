import QueryJournal.Settings.Policy

namespace QueryJournal

/-!
Why an operation of a log failed.
-/

/-- A failure: of the system below, of writing a record, of reading one, of the settings, or
because the log was closed. The texts describe the cause. -/
inductive Failure where
  | system (cause : String)
  | encoding (cause : String)
  | decoding (cause : String)
  | settings (fault : SettingsFault)
  | closed
  deriving DecidableEq, Repr

namespace Failure

/-- The wording of a failure. -/
def message : Failure → String
  | .system cause => "I/O error: " ++ cause
  | .encoding cause => "Encode error: " ++ cause
  | .decoding cause => "Decode error: " ++ cause
  | .settings fault => "Configuration error: " ++ fault.message
  | .closed => "Query log is closed"

/-- Whether a search may pass over what failed and go on. -/
def isRecoverable : Failure → Bool
  | .decoding _ => true
  | _ => false

end Failure

end QueryJournal
