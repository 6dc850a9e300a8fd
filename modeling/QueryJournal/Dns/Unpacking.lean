import QueryJournal.Dns.Message

namespace QueryJournal.Dns

open QueryJournal.Utf8 (Bytes)

/-!
Reading a message from its wire form. A pointer has to lead to a position before the part of the
name that holds it, and what it leads to has to end before that part, so reading a name ends.
-/

/-- A position in a message and the bytes from there on. -/
structure Cursor where
  position : Nat
  rest : Bytes
  deriving DecidableEq

namespace Cursor

def start (message : Bytes) : Cursor :=
  { position := 0, rest := message }

def take? (count : Nat) (cursor : Cursor) : Option (Bytes × Cursor) :=
  let taken := cursor.rest.take count
  if taken.length = count then
    some (taken, { position := cursor.position + count, rest := cursor.rest.drop count })
  else none

def word? (cursor : Cursor) : Option (Nat × Cursor) :=
  match cursor.rest with
  | high :: low :: rest =>
    some (high.toNat * 0x100 + low.toNat, { position := cursor.position + 2, rest })
  | _ => none

def doubleWord? (cursor : Cursor) : Option (Nat × Cursor) := do
  let (high, cursor) ← cursor.word?
  let (low, cursor) ← cursor.word?
  pure (high * 0x10000 + low, cursor)

end Cursor

/-- Reads labels up to the root or a pointer. The part of the name that is read starts at `start`
and has to end before `limit`; `before` holds the labels read so far, last first, and `length`
is the number of bytes that they take. -/
def unpackLabels (message : Bytes) (start : Nat) (limit : Option Nat) (length : Nat)
    (before : List Bytes) (position : Nat) (rest : Bytes) : Option (List Bytes × Cursor) :=
  if limit.any (· ≤ position) then none
  else
    match rest with
    | [] => none
    | head :: rest =>
      let size := head.toNat
      if size = 0 then some (before.reverse, { position := position + 1, rest })
      else if size < 0x40 then
        let label := rest.take size
        if label.length < size ∨ 254 < length + size + 1 then none
        else
          unpackLabels message start limit (length + size + 1) (label :: before)
            (position + 1 + size) (rest.drop size)
      else if 0xC0 ≤ size then
        match rest with
        | [] => none
        | low :: rest =>
          let place := (size - 0xC0) * 0x100 + low.toNat
          if place < start then
            (unpackLabels message place (some start) length before place
              (message.drop place)).map fun found => (found.1, { position := position + 2, rest })
          else none
      else none
termination_by (start, rest.length)
decreasing_by
  · right
    simp only [List.length_drop, List.length_cons]
    omega
  · left
    assumption

def unpackName (message : Bytes) (cursor : Cursor) : Option (Name × Cursor) := do
  let (labels, after) ←
    unpackLabels message cursor.position none 0 [] cursor.position cursor.rest
  let name ← Name.of? labels
  pure (name, after)

/-- Reads strings with their lengths until nothing is left. -/
def unpackStrings (bytes : Bytes) : Option (List Bytes) :=
  match bytes with
  | [] => some []
  | size :: rest =>
    let string := rest.take size.toNat
    if string.length < size.toNat then none
    else (unpackStrings (rest.drop size.toNat)).map fun strings => string :: strings
termination_by bytes.length
decreasing_by
  simp only [List.length_drop, List.length_cons]
  omega

def words : Bytes → List UInt16
  | high :: low :: rest => UInt16.ofNat (high.toNat * 0x100 + low.toNat) :: words rest
  | _ => []

def unpackWholeName (message : Bytes) (stop : Nat) (cursor : Cursor) : Option Name := do
  let (name, after) ← unpackName message cursor
  if after.position = stop then pure name else none

/-- Reads the data of a record of a type. Data of no bytes says nothing, whatever the type. -/
def unpackData (message : Bytes) (type : UInt16) (cursor : Cursor) (bytes : Bytes) :
    Option RecordData :=
  let stop := cursor.position + bytes.length
  if bytes.isEmpty then some (.other type [])
  else if type = 1 then
    match bytes with
    | [a, b, c, d] => some (.ipv4 a b c d)
    | _ => none
  else if type = 28 then
    let groups := (words bytes).toArray
    if eight : groups.size = 8 then
      if bytes.length = 16 then some (.ipv6 ⟨groups, eight⟩) else none
    else none
  else if type = 5 then (unpackWholeName message stop cursor).map .alias
  else if type = 2 then (unpackWholeName message stop cursor).map .nameServer
  else if type = 12 then (unpackWholeName message stop cursor).map .pointer
  else if type = 15 then do
    let (preference, cursor) ← cursor.word?
    let host ← unpackWholeName message stop cursor
    pure (.mailExchange (UInt16.ofNat preference) host)
  else if type = 16 then (unpackStrings bytes).map .text
  else some (.other type bytes)

def unpackQuestion (message : Bytes) (cursor : Cursor) : Option (Question × Cursor) := do
  let (name, cursor) ← unpackName message cursor
  let (type, cursor) ← cursor.word?
  let (group, cursor) ← cursor.word?
  pure ({ name, type := UInt16.ofNat type, group := UInt16.ofNat group }, cursor)

def unpackRecord (message : Bytes) (cursor : Cursor) : Option (ResourceRecord × Cursor) := do
  let (name, cursor) ← unpackName message cursor
  let (type, cursor) ← cursor.word?
  let (group, cursor) ← cursor.word?
  let (lifetime, cursor) ← cursor.doubleWord?
  let (size, cursor) ← cursor.word?
  let (bytes, after) ← cursor.take? size
  let data ← unpackData message (UInt16.ofNat type) cursor bytes
  pure ({ name, group := UInt16.ofNat group, lifetime := UInt32.ofNat lifetime, data }, after)

/-- Reads a number of items one after the other; `before` holds those already read, last
first. -/
def unpackMany {α : Type} (read : Cursor → Option (α × Cursor)) (before : List α) :
    Nat → Cursor → Option (List α × Cursor)
  | 0, cursor => some (before.reverse, cursor)
  | count + 1, cursor =>
    match read cursor with
    | none => none
    | some (item, cursor) => unpackMany read (item :: before) count cursor

def hasFlag (flags bit : Nat) : Bool :=
  flags.testBit bit

def Header.ofFlags (id flags : Nat) : Header :=
  { id := UInt16.ofNat id
    isResponse := hasFlag flags 15
    authoritative := hasFlag flags 10
    truncated := hasFlag flags 9
    recursionDesired := hasFlag flags 8
    recursionAvailable := hasFlag flags 7
    responseCode := flags % 16 }

/-- Reads a message. What follows the last record is passed over. -/
def Message.unpack? (bytes : Bytes) : Option Message := do
  let cursor := Cursor.start bytes
  let (id, cursor) ← cursor.word?
  let (flags, cursor) ← cursor.word?
  let (questionCount, cursor) ← cursor.word?
  let (answerCount, cursor) ← cursor.word?
  let (authorityCount, cursor) ← cursor.word?
  let (additionalCount, cursor) ← cursor.word?
  let (questions, cursor) ← unpackMany (unpackQuestion bytes) [] questionCount cursor
  let (answers, cursor) ← unpackMany (unpackRecord bytes) [] answerCount cursor
  let (authority, cursor) ← unpackMany (unpackRecord bytes) [] authorityCount cursor
  let (additional, _) ← unpackMany (unpackRecord bytes) [] additionalCount cursor
  pure { header := Header.ofFlags id flags, questions, answers, authority, additional }

end QueryJournal.Dns
