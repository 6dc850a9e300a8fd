import QueryJournal.Address.Text
import QueryJournal.Bytes.Base64
import QueryJournal.Record.Transport
import QueryJournal.Record.Verdict
import QueryJournal.Time.Text

namespace QueryJournal

open QueryJournal.Document
open QueryJournal.Time (Instant Span)
open QueryJournal.Utf8 (Bytes)

/-!
One recorded query and its form in a structured text. Messages are kept as the bytes that were
on the wire.
-/

/-- A recorded query. `receivedAnswer` is what the resolver sent before the filter replaced it. -/
structure Entry where
  time : Instant
  client : Address
  clientId : Option String
  transport : Transport
  host : String
  queryType : String
  queryClass : String
  answer : Option Bytes
  receivedAnswer : Option Bytes
  resolver : Option String
  verdict : Verdict
  elapsed : Span
  cached : Bool
  deriving DecidableEq, Inhabited

def Time.Span.toValue (span : Span) : Value :=
  .table [("secs", .integer span.seconds.toNat), ("nanos", .integer span.nanos)]

/-- Reads a span of time, which has to have both parts and nothing else. -/
def Time.Span.ofValue? (value : Value) : Option Span := do
  let fields ← value.exactFields? ["secs", "nanos"]
  let seconds ← fields.required "secs" (Value.count? UInt64.size)
  let nanos ← fields.required "nanos" (Value.count? UInt32.size)
  Span.carried? seconds nanos

namespace Entry

def fieldNames : List String :=
  ["t", "ip", "cid", "cp", "qh", "qt", "qc", "ans", "orig", "up", "res", "el", "cached"]

/-- The entry as a value. What is absent is left out. -/
def toValue (entry : Entry) : Value :=
  .table
    ([("t", .text (Time.rfc3339 entry.time)), ("ip", .text entry.client.text)] ++
      Verdict.optionalMember "cid" (entry.clientId.map .text) ++
      [("cp", .text entry.transport.name), ("qh", .text entry.host),
        ("qt", .text entry.queryType), ("qc", .text entry.queryClass)] ++
      Verdict.optionalMember "ans" (entry.answer.map fun bytes => .text (Base64.encode bytes)) ++
      Verdict.optionalMember "orig"
        (entry.receivedAnswer.map fun bytes => .text (Base64.encode bytes)) ++
      Verdict.optionalMember "up" (entry.resolver.map .text) ++
      [("res", entry.verdict.toValue), ("el", entry.elapsed.toValue)] ++
      (if entry.cached then [("cached", .bool true)] else []))

def bytes? (value : Value) : Option Bytes :=
  value.text?.bind Base64.decode?

/-- Reads an entry. Time, address, host, type and class have to be given. -/
def ofValue? (value : Value) : Option Entry := do
  let fields ← value.fields? .json fieldNames
  let time ← fields.required "t" fun value => value.text?.bind Time.parse?
  let client ← fields.required "ip" fun value => value.text?.bind Address.parse?
  let clientId ← fields.withDefault "cid" none (Value.optional? Value.text?)
  let transport ← fields.withDefault "cp" .plain (Value.choice? .json Transport.named?)
  let host ← fields.required "qh" Value.text?
  let queryType ← fields.required "qt" Value.text?
  let queryClass ← fields.required "qc" Value.text?
  let answer ← fields.withDefault "ans" none (Value.optional? bytes?)
  let receivedAnswer ← fields.withDefault "orig" none (Value.optional? bytes?)
  let resolver ← fields.withDefault "up" none (Value.optional? Value.text?)
  let verdict ← fields.withDefault "res" Verdict.passed Verdict.ofValue?
  let elapsed ← fields.withDefault "el" Span.zero Span.ofValue?
  let cached ← fields.withDefault "cached" false Value.bool?
  pure
    { time, client, clientId, transport, host, queryType, queryClass, answer, receivedAnswer,
      resolver, verdict, elapsed, cached }

end Entry

end QueryJournal
