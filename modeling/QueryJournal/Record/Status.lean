import QueryJournal.Record.Verdict

namespace QueryJournal

/-!
Classes of decisions that a search can ask for.
-/

/-- A class of decisions. The classes overlap, and `all` holds every decision. -/
inductive Status where
  | all
  | filtered
  | blocked
  | blockedServices
  | blockedSafeBrowsing
  | blockedParental
  | whitelisted
  | replaced
  | safeSearch
  | processed
  deriving DecidableEq, Repr

namespace Status

def name : Status → String
  | .all => "all"
  | .filtered => "filtered"
  | .blocked => "blocked"
  | .blockedServices => "blocked_services"
  | .blockedSafeBrowsing => "blocked_safebrowsing"
  | .blockedParental => "blocked_parental"
  | .whitelisted => "whitelisted"
  | .replaced => "rewritten"
  | .safeSearch => "safe_search"
  | .processed => "processed"

def every : List Status :=
  [.all, .filtered, .blocked, .blockedServices, .blockedSafeBrowsing, .blockedParental,
    .whitelisted, .replaced, .safeSearch, .processed]

def named? (name : String) : Option Status :=
  every.find? fun status => status.name == name

def contains (status : Status) (verdict : Verdict) : Bool :=
  let reason := verdict.reason
  match status with
  | .all => true
  | .filtered => verdict.filtered || reason == .allowList || reason.replacesAnswer
  | .blocked => verdict.filtered && (reason == .blockList || reason == .blockedService)
  | .blockedServices => verdict.filtered && reason == .blockedService
  | .blockedSafeBrowsing => verdict.filtered && reason == .safeBrowsing
  | .blockedParental => verdict.filtered && reason == .parental
  | .whitelisted => reason == .allowList
  | .replaced => reason.replacesAnswer
  | .safeSearch => verdict.filtered && reason == .safeSearch
  | .processed => reason != .blockList && reason != .blockedService && reason != .allowList

/-- Why a text names no class. -/
structure UnknownStatus where
  text : String
  deriving DecidableEq, Repr

/-- The wording of the failure. -/
def UnknownStatus.message (failure : UnknownStatus) : String :=
  "unknown filtering status " ++ Text.quoted failure.text

def parse (text : String) : Except UnknownStatus Status :=
  match named? text with
  | some status => .ok status
  | none => .error { text }

end Status

end QueryJournal
