import QueryJournal.Dns.Name
import QueryJournal.Dns.Registry

namespace QueryJournal.Dns

open QueryJournal.Utf8 (Bytes)

/-!
Messages of the domain name system: a header, the questions and three sections of records. The
class of a question or a record is its `group`.
-/

/-- What is asked. -/
structure Question where
  name : Name
  type : UInt16 := 1
  group : UInt16 := internet
  deriving DecidableEq, Inhabited

/-- What a record says of its name. -/
inductive RecordData where
  | ipv4 (a b c d : UInt8)
  | ipv6 (groups : Vector UInt16 8)
  | alias (target : Name)
  | nameServer (host : Name)
  | pointer (target : Name)
  | mailExchange (preference : UInt16) (host : Name)
  | text (strings : List Bytes)
  | other (type : UInt16) (bytes : Bytes)
  deriving DecidableEq

def RecordData.type : RecordData → UInt16
  | .ipv4 .. => 1
  | .ipv6 _ => 28
  | .alias _ => 5
  | .nameServer _ => 2
  | .pointer _ => 12
  | .mailExchange .. => 15
  | .text _ => 16
  | .other type _ => type

/-- A record. -/
structure ResourceRecord where
  name : Name
  group : UInt16 := internet
  lifetime : UInt32
  data : RecordData
  deriving DecidableEq

/-- The part of a message before the questions, without the counts. -/
structure Header where
  id : UInt16 := 0
  isResponse : Bool := true
  authoritative : Bool := false
  truncated : Bool := false
  recursionDesired : Bool := false
  recursionAvailable : Bool := false
  responseCode : Nat := 0
  deriving DecidableEq, Inhabited

/-- A message. -/
structure Message where
  header : Header := {}
  questions : List Question := []
  answers : List ResourceRecord := []
  authority : List ResourceRecord := []
  additional : List ResourceRecord := []
  deriving DecidableEq, Inhabited

end QueryJournal.Dns
