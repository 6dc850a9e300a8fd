import QueryJournal.Proofs.Address.Text
import QueryJournal.Proofs.Bytes.Base64
import QueryJournal.Proofs.Document.Value
import QueryJournal.Proofs.Time.Text
import QueryJournal.Record.Entry

namespace QueryJournal

open QueryJournal.Document
open QueryJournal.Time (Instant Span)

/-!
Every record is read back from its value: rules, decisions, spans of time and whole entries.
-/

theorem Transport.named?_name (transport : Transport) :
    Transport.named? transport.name = some transport := by
  cases transport <;> rfl

theorem Reason.named?_name (reason : Reason) : Reason.named? reason.name = some reason := by
  cases reason <;> rfl

/-- A rule is read back, whatever the number of its list. -/
theorem FilterRule.ofValue?_toValue (rule : FilterRule) :
    FilterRule.ofValue? rule.toValue = some rule := by
  have fields : rule.toValue.fields? .json ["filter_list_id", "text"] =
      some [("filter_list_id", .integer rule.listId.toInt), ("text", .text rule.text)] :=
    Value.fields?_table .json (by decide) (List.Sublist.refl _)
  have inside : Value.integer? Int64.minValue.toInt Int64.maxValue.toInt
      (.integer rule.listId.toInt) = some rule.listId.toInt := by
    rw [Value.integer?, if_pos ⟨rule.listId.minValue_le_toInt, rule.listId.toInt_le⟩]
  simp only [FilterRule.ofValue?, fields, Fields.required, List.lookup_cons_self, bind,
    Option.bind, inside, pure, Int64.ofInt_toInt]
  rfl

namespace Verdict

/-- A member that may be left out is found under its own name only. -/
theorem lookup_optionalMember (name other : String) (value : Option Value) :
    (optionalMember name value).lookup other = if other = name then value else none := by
  cases value with
  | none => simp [optionalMember]
  | some value =>
      by_cases same : other = name
      · simp [optionalMember, same]
      · have apart : (other == name) = false := beq_false_of_ne same
        simp [optionalMember, List.lookup_cons, same, apart]

theorem optionalMember_names (name : String) (value : Option Value) :
    ((optionalMember name value).map Prod.fst).Sublist [name] := by
  cases value <;> simp [optionalMember]

theorem fields?_toValue (verdict : Verdict) :
    verdict.toValue.fields? .json fieldNames =
      some ([("is_filtered", .bool verdict.filtered), ("reason", .text verdict.reason.name)] ++
        (if verdict.rules.isEmpty then []
          else [("rules", .list (verdict.rules.map FilterRule.toValue))]) ++
        optionalMember "service_name" (verdict.service.map .text) ++
        optionalMember "canon_name" (verdict.canonicalName.map .text)) := by
  refine Value.fields?_table .json (by decide) ?_
  have rules : ((if verdict.rules.isEmpty then []
      else [("rules", Value.list (verdict.rules.map FilterRule.toValue))]).map
        Prod.fst).Sublist ["rules"] := by
    split <;> simp
  simp only [List.map_append]
  exact ((((List.Sublist.refl _).append rules).append (optionalMember_names _ _)).append
    (optionalMember_names _ _))

theorem ofValue?_toValue (verdict : Verdict) : ofValue? verdict.toValue = some verdict := by
  rw [ofValue?, fields?_toValue, Option.bind_eq_bind, Option.bind_some]
  generalize shape : [("is_filtered", Value.bool verdict.filtered),
    ("reason", .text verdict.reason.name)] ++ _ ++ _ ++ _ = fields
  have filtered : fields.lookup "is_filtered" = some (.bool verdict.filtered) := by
    simp [← shape]
  have reason : fields.lookup "reason" = some (.text verdict.reason.name) := by
    simp [← shape, List.lookup_cons]
  have rules : Fields.withDefault fields "rules" [] (Value.list? FilterRule.ofValue?) =
      some verdict.rules := by
    cases given : verdict.rules with
    | nil =>
        simp [← shape, Fields.withDefault, given, List.lookup_cons, List.lookup_append, lookup_optionalMember]
    | cons rule rules =>
        have found : fields.lookup "rules" =
            some (.list ((rule :: rules).map FilterRule.toValue)) := by
          simp [← shape, given, List.lookup_cons]
        rw [Fields.withDefault_of_lookup found,
          Value.list?_map _ FilterRule.ofValue?_toValue]
  have service : fields.lookup "service_name" = verdict.service.map .text := by
    rw [← shape]
    split <;> simp [List.lookup_cons, List.lookup_append, lookup_optionalMember]
  have canonicalName : fields.lookup "canon_name" = verdict.canonicalName.map .text := by
    rw [← shape]
    split <;> simp [List.lookup_cons, List.lookup_append, lookup_optionalMember]
  rw [Fields.withDefault_of_lookup filtered, Fields.withDefault_of_lookup reason, rules,
    Fields.withDefault_optional service (fun _ => rfl) (by simp),
    Fields.withDefault_optional canonicalName (fun _ => rfl) (by simp)]
  simp only [Value.bool?, Value.choice?, Reason.named?_name, Option.bind_eq_bind, Option.bind_some,
    Option.pure_def]

end Verdict

theorem Time.Span.ofValue?_toValue (span : Span) : Span.ofValue? span.toValue = some span := by
  have fields : span.toValue.exactFields? ["secs", "nanos"] =
      some [("secs", .integer span.seconds.toNat), ("nanos", .integer span.nanos)] :=
    Value.exactFields?_table (by decide) rfl
  have small := span.nanos_lt
  have word : span.seconds.toNat < UInt64.size := span.seconds.toNat_lt
  have limit : UInt64.size = 18446744073709551616 := rfl
  have half : UInt32.size = 4294967296 := rfl
  have seconds : Value.count? UInt64.size (.integer span.seconds.toNat) =
      some span.seconds.toNat := by
    rw [Value.count?, Value.integer?, if_pos ⟨Int.natCast_nonneg _, by omega⟩]
    rfl
  have nanos : Value.count? UInt32.size (.integer span.nanos) = some span.nanos := by
    rw [Value.count?, Value.integer?, if_pos ⟨Int.natCast_nonneg _, by omega⟩]
    rfl
  have second : (("secs", Value.integer span.seconds.toNat) ::
      [("nanos", Value.integer span.nanos)]).lookup "nanos" = some (.integer span.nanos) := rfl
  have whole : span.seconds.toNat + span.nanos / 1000000000 = span.seconds.toNat := by
    omega
  have rest : span.nanos % 1000000000 = span.nanos := Nat.mod_eq_of_lt small
  simp only [Span.ofValue?, fields, Fields.required, List.lookup_cons_self, second, bind,
    Option.bind, seconds, nanos, Span.carried?, whole, word, ↓reduceIte, rest,
    UInt64.ofNat_toNat]

namespace Entry

open Verdict (lookup_optionalMember optionalMember optionalMember_names)

theorem bytes?_encode (bytes : Utf8.Bytes) :
    bytes? (.text (Base64.encode bytes)) = some bytes :=
  Base64.decode?_encode bytes

theorem fields?_toValue (entry : Entry) :
    entry.toValue.fields? .json fieldNames =
      some ([("t", .text (Time.rfc3339 entry.time)), ("ip", .text entry.client.text)] ++
        optionalMember "cid" (entry.clientId.map .text) ++
        [("cp", .text entry.transport.name), ("qh", .text entry.host),
          ("qt", .text entry.queryType), ("qc", .text entry.queryClass)] ++
        optionalMember "ans" (entry.answer.map fun bytes => .text (Base64.encode bytes)) ++
        optionalMember "orig"
          (entry.receivedAnswer.map fun bytes => .text (Base64.encode bytes)) ++
        optionalMember "up" (entry.resolver.map .text) ++
        [("res", entry.verdict.toValue), ("el", entry.elapsed.toValue)] ++
        (if entry.cached then [("cached", .bool true)] else [])) := by
  refine Value.fields?_table .json (by decide) ?_
  have cached : ((if entry.cached then [("cached", Value.bool true)] else []).map
      Prod.fst).Sublist ["cached"] := by
    split <;> simp
  simp only [List.map_append]
  exact (((((((List.Sublist.refl _).append (optionalMember_names _ _)).append
    (List.Sublist.refl _)).append (optionalMember_names _ _)).append
      (optionalMember_names _ _)).append (optionalMember_names _ _)).append
        (List.Sublist.refl _)).append cached

theorem ofValue?_toValue (entry : Entry) : ofValue? entry.toValue = some entry := by
  rw [ofValue?, fields?_toValue, Option.bind_eq_bind, Option.bind_some]
  have cachedOnly : ∀ other ≠ "cached",
      (if entry.cached then [("cached", Value.bool true)] else []).lookup other = none := by
    intro other apart
    split
    · rw [List.lookup_cons, beq_false_of_ne apart, List.lookup_nil]
    · rfl
  generalize shape : [("t", Value.text (Time.rfc3339 entry.time)),
    ("ip", .text entry.client.text)] ++ _ ++ _ ++ _ ++ _ ++ _ ++ _ ++ _ = fields
  have time : fields.lookup "t" = some (.text (Time.rfc3339 entry.time)) := by
    simp [← shape]
  have client : fields.lookup "ip" = some (.text entry.client.text) := by
    simp [← shape, List.lookup_cons]
  have clientId : fields.lookup "cid" = entry.clientId.map .text := by
    simp [← shape, List.lookup_cons, List.lookup_append, lookup_optionalMember,
      cachedOnly]
  have transport : fields.lookup "cp" = some (.text entry.transport.name) := by
    simp [← shape, List.lookup_cons, List.lookup_append, lookup_optionalMember]
  have host : fields.lookup "qh" = some (.text entry.host) := by
    simp [← shape, List.lookup_cons, List.lookup_append, lookup_optionalMember]
  have queryType : fields.lookup "qt" = some (.text entry.queryType) := by
    simp [← shape, List.lookup_cons, List.lookup_append, lookup_optionalMember]
  have queryClass : fields.lookup "qc" = some (.text entry.queryClass) := by
    simp [← shape, List.lookup_cons, List.lookup_append, lookup_optionalMember]
  have answer : fields.lookup "ans" =
      entry.answer.map fun bytes => .text (Base64.encode bytes) := by
    simp [← shape, List.lookup_cons, List.lookup_append, lookup_optionalMember,
      cachedOnly]
  have receivedAnswer : fields.lookup "orig" =
      entry.receivedAnswer.map fun bytes => .text (Base64.encode bytes) := by
    simp [← shape, List.lookup_cons, List.lookup_append, lookup_optionalMember,
      cachedOnly]
  have resolver : fields.lookup "up" = entry.resolver.map .text := by
    simp [← shape, List.lookup_cons, List.lookup_append, lookup_optionalMember,
      cachedOnly]
  have verdict : fields.lookup "res" = some entry.verdict.toValue := by
    simp [← shape, List.lookup_cons, List.lookup_append, lookup_optionalMember]
  have elapsed : fields.lookup "el" = some entry.elapsed.toValue := by
    simp [← shape, List.lookup_cons, List.lookup_append, lookup_optionalMember]
  have cached : Fields.withDefault fields "cached" false Value.bool? = some entry.cached := by
    cases given : entry.cached <;>
      simp [← shape, Fields.withDefault, given, Value.bool?, List.lookup_cons,
        List.lookup_append, lookup_optionalMember]
  rw [Fields.required_of_lookup time, Fields.required_of_lookup client,
    Fields.withDefault_optional clientId (fun _ => rfl) (by simp),
    Fields.withDefault_of_lookup transport, Fields.required_of_lookup host,
    Fields.required_of_lookup queryType, Fields.required_of_lookup queryClass,
    Fields.withDefault_optional answer bytes?_encode (by simp),
    Fields.withDefault_optional receivedAnswer bytes?_encode (by simp),
    Fields.withDefault_optional resolver (fun _ => rfl) (by simp),
    Fields.withDefault_of_lookup verdict, Fields.withDefault_of_lookup elapsed, cached]
  simp only [Value.text?, Value.choice?, Time.parse?_rfc3339, Address.parse?_text,
    Transport.named?_name, Verdict.ofValue?_toValue, Time.Span.ofValue?_toValue,
    Option.bind_eq_bind, Option.bind_some, Option.pure_def]

end Entry

end QueryJournal
