import QueryJournal.Document.Value
import QueryJournal.Record.Reason

namespace QueryJournal

open QueryJournal.Document

/-!
What the filter decided about a query, and its form in a structured text.
-/

/-- A rule of a filter list that took part in a decision. -/
structure FilterRule where
  listId : Int64
  text : String
  deriving DecidableEq

namespace FilterRule

def toValue (rule : FilterRule) : Value :=
  .table [("filter_list_id", .integer rule.listId.toInt), ("text", .text rule.text)]

/-- Reads a rule; both fields have to be given. -/
def ofValue? (value : Value) : Option FilterRule := do
  let fields ← value.fields? .json ["filter_list_id", "text"]
  let listId ← fields.required "filter_list_id"
    (Value.integer? Int64.minValue.toInt Int64.maxValue.toInt)
  let text ← fields.required "text" Value.text?
  pure { listId := Int64.ofInt listId, text }

end FilterRule

/-- A decision of the filter. -/
structure Verdict where
  filtered : Bool := false
  reason : Reason := .notFound
  rules : List FilterRule := []
  service : Option String := none
  canonicalName : Option String := none
  deriving DecidableEq, Inhabited

namespace Verdict

def passed : Verdict :=
  {}

def filteredFor (reason : Reason) : Verdict :=
  { filtered := true, reason }

def withRule (verdict : Verdict) (rule : FilterRule) : Verdict :=
  { verdict with rules := verdict.rules ++ [rule] }

def withService (verdict : Verdict) (service : String) : Verdict :=
  { verdict with service := some service }

def optionalMember (name : String) (value : Option Value) : List (String × Value) :=
  value.toList.map fun value => (name, value)

def toValue (verdict : Verdict) : Value :=
  .table
    ([("is_filtered", .bool verdict.filtered), ("reason", .text verdict.reason.name)] ++
      (if verdict.rules.isEmpty then []
        else [("rules", .list (verdict.rules.map FilterRule.toValue))]) ++
      optionalMember "service_name" (verdict.service.map .text) ++
      optionalMember "canon_name" (verdict.canonicalName.map .text))

def fieldNames : List String :=
  ["is_filtered", "reason", "rules", "service_name", "canon_name"]

/-- Reads a decision; fields that are not given are those of a passed query. -/
def ofValue? (value : Value) : Option Verdict := do
  let fields ← value.fields? .json fieldNames
  let filtered ← fields.withDefault "is_filtered" false Value.bool?
  let reason ← fields.withDefault "reason" .notFound (Value.choice? .json Reason.named?)
  let rules ← fields.withDefault "rules" [] (Value.list? FilterRule.ofValue?)
  let service ← fields.withDefault "service_name" none (Value.optional? Value.text?)
  let canonicalName ← fields.withDefault "canon_name" none (Value.optional? Value.text?)
  pure { filtered, reason, rules, service, canonicalName }

end Verdict

end QueryJournal
