import QueryJournal.Dns.Message

namespace QueryJournal.Dns

open QueryJournal.Utf8 (Bytes)

/-!
The wire form of a message. A name that ends like an earlier one refers to it by a pointer, so
the form of a name depends on what was written before it. Records that do not fit any more are
left out; packing fails only where a string of a text record does not fit into its length byte
or the questions alone fill up the message.
-/

def wordBytes (number : Nat) : Bytes :=
  [UInt8.ofNat (number / 0x100), UInt8.ofNat number]

def doubleWordBytes (number : Nat) : Bytes :=
  wordBytes (number / 0x10000) ++ wordBytes number

abbrev KnownSuffixes := List (List Bytes × Nat)

def maxMessageLength : Nat := 65535

def pointerLimit : Nat := 0x3FFF

/-- Writes labels from a position on: a known end as a pointer, and each new end becomes known if
`remember` is set. -/
def packLabels (remember : Bool) (known : KnownSuffixes) (position : Nat) :
    List Bytes → Bytes × KnownSuffixes
  | [] => ([0], known)
  | label :: rest =>
    match known.lookup (label :: rest) with
    | some place => (wordBytes (0xC000 + place), known)
    | none =>
      let known := if remember then (label :: rest, position) :: known else known
      let (bytes, known) := packLabels remember known (position + label.length + 1) rest
      (UInt8.ofNat label.length :: (label ++ bytes), known)

/-- Why writing stops: a string that does not fit into its length byte, or the end of what a
message may hold. -/
inductive PackFault where
  | longString (length : Nat)
  | full
  deriving DecidableEq, Repr

def fitting (position : Nat) (bytes : Bytes) : Except PackFault Bytes :=
  if position + bytes.length ≤ maxMessageLength then .ok bytes else .error .full

/-- Writes a name. The message has to have room for all of its labels, also for those that a
pointer takes the place of. The ends become known if the name lies where pointers reach. -/
def packName (known : KnownSuffixes) (position : Nat) (name : Name) :
    Except PackFault (Bytes × KnownSuffixes) :=
  let stop := position + wireLength name.labels - 1
  let (bytes, known) := packLabels (stop < pointerLimit) known position name.labels
  if stop ≤ maxMessageLength then (fitting position bytes).map fun bytes => (bytes, known)
  else .error .full

def packStrings (position : Nat) : List Bytes → Except PackFault Bytes
  | [] => .ok []
  | string :: rest =>
    if 255 < string.length then .error (.longString string.length)
    else do
      let bytes ← fitting position (UInt8.ofNat string.length :: string)
      let others ← packStrings (position + bytes.length) rest
      pure (bytes ++ others)

def packData (known : KnownSuffixes) (position : Nat) :
    RecordData → Except PackFault (Bytes × KnownSuffixes)
  | .ipv4 a b c d => (fitting position [a, b, c, d]).map fun bytes => (bytes, known)
  | .ipv6 groups =>
    (fitting position (groups.toList.flatMap fun group => wordBytes group.toNat)).map
      fun bytes => (bytes, known)
  | .alias name | .nameServer name | .pointer name => packName known position name
  | .mailExchange preference host => do
    let (bytes, known) ← packName known (position + 2) host
    pure (wordBytes preference.toNat ++ bytes, known)
  | .text strings => (packStrings position strings).map fun bytes => (bytes, known)
  | .other _ bytes => (fitting position bytes).map fun bytes => (bytes, known)

/-- Writes a record: the name, ten bytes of which the last two are the length of the data, and the
data. -/
def packRecord (known : KnownSuffixes) (position : Nat) (record : ResourceRecord) :
    Except PackFault (Bytes × KnownSuffixes) := do
  let (name, known) ← packName known position record.name
  let head := name ++ wordBytes record.data.type.toNat ++ wordBytes record.group.toNat ++
    doubleWordBytes record.lifetime.toNat
  let _ ← fitting (position + 2) head
  let (data, known) ← packData known (position + head.length + 2) record.data
  pure (head ++ wordBytes data.length ++ data, known)

/-- Records of a section as far as they are written. -/
structure Section where
  bytes : Bytes
  count : Nat
  isCut : Bool
  known : KnownSuffixes

/-- Writes the records of a section up to the first one that does not fit into the message. -/
def packSection (known : KnownSuffixes) (position : Nat) :
    List ResourceRecord → Except PackFault Section
  | [] => .ok { bytes := [], count := 0, isCut := false, known }
  | record :: rest =>
    match packRecord known position record with
    | .error .full => .ok { bytes := [], count := 0, isCut := true, known }
    | .error (.longString length) => .error (.longString length)
    | .ok (bytes, after) =>
      (packSection after (position + bytes.length) rest).map fun others =>
        { others with bytes := bytes ++ others.bytes, count := others.count + 1 }

/-- Writes the questions, which have to fit all. -/
def packQuestions (known : KnownSuffixes) (position : Nat) :
    List Question → Except PackFault (Bytes × KnownSuffixes)
  | [] => .ok ([], known)
  | question :: rest => do
    let (name, known) ← packName known position question.name
    let bytes ← fitting position
      (name ++ wordBytes question.type.toNat ++ wordBytes question.group.toNat)
    let (others, known) ← packQuestions known (position + bytes.length) rest
    pure (bytes ++ others, known)

def flag (bit : Nat) (set : Bool) : Nat :=
  if set then 1 <<< bit else 0

def Header.flags (header : Header) : Nat :=
  flag 15 header.isResponse + flag 10 header.authoritative + flag 9 header.truncated +
    flag 8 header.recursionDesired + flag 7 header.recursionAvailable + header.responseCode % 16

/-- Writes a message. A message that would be too long loses records and is marked as
truncated. -/
def Message.pack (message : Message) : Except PackFault Bytes := do
  let (questions, known) ← packQuestions [] 12 message.questions
  let start := 12 + questions.length
  let answers ← packSection known start message.answers
  let start := start + answers.bytes.length
  let authority ← packSection answers.known start message.authority
  let start := start + authority.bytes.length
  let additional ← packSection authority.known start message.additional
  let isCut := answers.isCut || authority.isCut || additional.isCut
  let header := { message.header with truncated := message.header.truncated || isCut }
  pure (wordBytes header.id.toNat ++ wordBytes header.flags ++
    wordBytes message.questions.length ++ wordBytes answers.count ++ wordBytes authority.count ++
    wordBytes additional.count ++ questions ++ answers.bytes ++ authority.bytes ++
    additional.bytes)

end QueryJournal.Dns
