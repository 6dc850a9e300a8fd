import QueryJournal.Record.Entry
import QueryJournal.Record.Status

namespace QueryJournal.Search

open QueryJournal.Text (eqIgnoringCase)
open QueryJournal.Utf8 (Bytes)

/-!
What a search asks of an entry.
-/

/-- A condition on entries: a text that the host or the client address has to contain, or has to
equal if the criterion is strict, or a class of decisions. -/
inductive Criterion where
  | term (text : String) (strict : Bool)
  | status (status : Status)
  deriving DecidableEq

/-- A byte, as a small letter if it is a capital one of ASCII. -/
def foldByte (byte : UInt8) : UInt8 :=
  if 0x41 ≤ byte ∧ byte ≤ 0x5A then byte + 0x20 else byte

def sameIgnoringCase (left right : Bytes) : Bool :=
  left.map foldByte == right.map foldByte

/-- Whether some window over the bytes that is as long as the part agrees with it. A window that
the end of the bytes cuts short is no longer as long as the part. -/
def matchesWithin (part : Bytes) : Bytes → Bool
  | [] => false
  | byte :: rest =>
    sameIgnoringCase ((byte :: rest).take part.length) part || matchesWithin part rest

def occursIgnoringCase (part text : List Char) : Bool :=
  part.isEmpty || matchesWithin (Utf8.encode part) (Utf8.encode text)

/-- The texts of an entry in which terms are looked for. -/
def searchedTexts (entry : Entry) : List (List Char) :=
  [entry.host.toList, entry.client.chars]

def Criterion.admits (criterion : Criterion) (entry : Entry) : Bool :=
  match criterion with
  | .term text true => (searchedTexts entry).any fun field => eqIgnoringCase field text.toList
  | .term text false =>
    (searchedTexts entry).any fun field => occursIgnoringCase text.toList field
  | .status wanted => wanted.contains entry.verdict

end QueryJournal.Search
