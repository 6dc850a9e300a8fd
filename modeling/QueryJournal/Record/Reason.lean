import QueryJournal.Text.Quoted

namespace QueryJournal

/-!
Why the filter treated a query as it did.
-/

/-- The outcome of filtering. The first three let a query pass, the last three replace its answer,
and those between withhold it. -/
inductive Reason where
  | notFound
  | allowList
  | filterFailed
  | blockList
  | safeBrowsing
  | parental
  | invalid
  | safeSearch
  | blockedService
  | replaced
  | replacedByHosts
  | replacedByRule
  deriving DecidableEq, Repr, Inhabited

namespace Reason

def name : Reason → String
  | .notFound => "not_filtered_not_found"
  | .allowList => "not_filtered_allow_list"
  | .filterFailed => "not_filtered_error"
  | .blockList => "filtered_block_list"
  | .safeBrowsing => "filtered_safe_browsing"
  | .parental => "filtered_parental"
  | .invalid => "filtered_invalid"
  | .safeSearch => "filtered_safe_search"
  | .blockedService => "filtered_blocked_service"
  | .replaced => "rewritten"
  | .replacedByHosts => "rewritten_auto_hosts"
  | .replacedByRule => "rewritten_rule"

def all : List Reason :=
  [.notFound, .allowList, .filterFailed, .blockList, .safeBrowsing, .parental, .invalid,
    .safeSearch, .blockedService, .replaced, .replacedByHosts, .replacedByRule]

def named? (name : String) : Option Reason :=
  all.find? fun reason => reason.name == name

def replacesAnswer : Reason → Bool
  | .replaced | .replacedByHosts | .replacedByRule => true
  | _ => false

/-- Why a text names no reason. -/
structure UnknownReason where
  text : String
  deriving DecidableEq, Repr

/-- The wording of the failure. -/
def UnknownReason.message (failure : UnknownReason) : String :=
  "unknown filtering reason: " ++ Text.quoted failure.text

def parse (text : String) : Except UnknownReason Reason :=
  match named? text with
  | some reason => .ok reason
  | none => .error { text }

end Reason

end QueryJournal
