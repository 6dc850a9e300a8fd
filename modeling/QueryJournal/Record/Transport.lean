import QueryJournal.Text.Quoted

namespace QueryJournal

/-!
The transport over which a client asked.
-/

/-- A transport of the domain name system. -/
inductive Transport where
  | plain
  | doh
  | dot
  | doq
  | dnscrypt
  deriving DecidableEq, Repr, Inhabited

namespace Transport

def name : Transport → String
  | .plain => "plain"
  | .doh => "doh"
  | .dot => "dot"
  | .doq => "doq"
  | .dnscrypt => "dnscrypt"

def all : List Transport :=
  [.plain, .doh, .dot, .doq, .dnscrypt]

def named? (name : String) : Option Transport :=
  all.find? fun transport => transport.name == name

def isEncrypted (transport : Transport) : Bool :=
  transport != .plain

/-- Why a text names no transport. -/
structure UnknownTransport where
  text : String
  deriving DecidableEq, Repr

/-- The wording of the failure. -/
def UnknownTransport.message (failure : UnknownTransport) : String :=
  "unknown client protocol: " ++ Text.quoted failure.text

/-- Reads the name of a transport; the empty text stands for the plain one. -/
def parse (text : String) : Except UnknownTransport Transport :=
  if text.isEmpty then .ok .plain
  else
    match named? text with
    | some transport => .ok transport
    | none => .error { text }

end Transport

end QueryJournal
