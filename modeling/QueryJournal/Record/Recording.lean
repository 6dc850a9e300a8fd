import QueryJournal.Dns.Packing
import QueryJournal.Host.Basic
import QueryJournal.Record.Entry

namespace QueryJournal

open QueryJournal.Time (Instant Span)

/-!
From an answered query to its entry.
-/

/-- An answered query. `receivedAnswer` is what the resolver sent before the filter replaced it. -/
structure Exchange where
  question : Dns.Question
  client : Address
  clientId : Option String := none
  transport : Transport := .plain
  answer : Option Dns.Message := none
  receivedAnswer : Option Dns.Message := none
  resolver : Option String := none
  verdict : Option Verdict := none
  elapsed : Span := .zero
  cached : Bool := false

namespace Exchange

def packed (message : Option Dns.Message) : Except Dns.PackFault (Option Utf8.Bytes) :=
  match message with
  | none => .ok none
  | some message => message.pack.map some

/-- The host under which a name is recorded. -/
def recordedHost (name : Dns.Name) : String :=
  String.ofList (Host.normal name.text)

/-- The address under which a client is recorded. -/
def recordedClient (masks : Bool) (client : Address) : Address :=
  if masks then client.masked else client

/-- The entry of an exchange at a time. Fails only where a message cannot be packed. -/
def record (masks : Bool) (time : Instant) (exchange : Exchange) :
    Except Dns.PackFault Entry := do
  let answer ← packed exchange.answer
  let receivedAnswer ← packed exchange.receivedAnswer
  pure
    { time
      client := recordedClient masks exchange.client
      clientId := exchange.clientId
      transport := exchange.transport
      host := recordedHost exchange.question.name
      queryType := Dns.typeName exchange.question.type
      queryClass := Dns.className exchange.question.group
      answer
      receivedAnswer
      resolver := exchange.resolver
      verdict := exchange.verdict.getD .passed
      elapsed := exchange.elapsed
      cached := exchange.cached }

end Exchange

end QueryJournal
