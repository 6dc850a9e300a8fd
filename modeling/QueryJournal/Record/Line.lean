import QueryJournal.Json.Printer
import QueryJournal.Json.Reader
import QueryJournal.Record.Entry

namespace QueryJournal.Entry

open QueryJournal.Utf8 (Bytes)

/-!
The line form of an entry: one JSON object and a newline. Reading takes a line with its newline,
without it, or with the two-byte line end of other systems.
-/

def newline : UInt8 :=
  0x0A

/-- The line of an entry without its newline. -/
def lineBody (entry : Entry) : Bytes :=
  Utf8.encode (Json.render entry.toValue)

def line (entry : Entry) : Bytes :=
  entry.lineBody ++ [newline]

/-- A byte sequence without its last byte, if that is a given one. -/
def withoutLast (last : UInt8) (bytes : Bytes) : Bytes :=
  if bytes.getLast? == some last then bytes.dropLast else bytes

def ofLine? (line : Bytes) : Option Entry :=
  (Json.parse? (withoutLast 0x0D (withoutLast newline line))).bind ofValue?

end QueryJournal.Entry
