import QueryJournal.Text.Numeral
import QueryJournal.Text.Utf8

namespace QueryJournal.Dns

open QueryJournal.Utf8 (Bytes)

/-!
Domain names. A name is a list of labels, and a label may hold any bytes. The text of a name
escapes every byte that could be mistaken for something else, so that two names with different
labels have different texts.
-/

/-- The number of bytes that labels take on the wire, with the root at their end. -/
def wireLength (labels : List Bytes) : Nat :=
  labels.foldr (fun label rest => label.length + 1 + rest) 1

def IsLabel (label : Bytes) : Prop :=
  0 < label.length ∧ label.length ≤ 63

instance (label : Bytes) : Decidable (IsLabel label) := by
  unfold IsLabel
  infer_instance

/-- A domain name, from the host to the root, which is not among the labels. -/
structure Name where
  labels : List Bytes
  isLabel : ∀ label ∈ labels, IsLabel label
  length_le : wireLength labels ≤ 255
  deriving DecidableEq

namespace Name

/-- The name without labels. -/
def root : Name :=
  { labels := [], isLabel := by simp, length_le := by decide }

instance : Inhabited Name := ⟨root⟩

def of? (labels : List Bytes) : Option Name :=
  if valid : (∀ label ∈ labels, IsLabel label) ∧ wireLength labels ≤ 255 then
    some { labels, isLabel := valid.1, length_le := valid.2 }
  else none

/-- The name whose labels stand between points, without a point at the end. -/
def ofDotted? (text : List Char) : Option Name :=
  if text.isEmpty then some root else of? ((text.splitOn '.').map Utf8.encode)

def ofText? (text : List Char) : Option Name :=
  ofDotted? (if text.getLast? == some '.' then text.dropLast else text)

def isAlphanumeric (byte : UInt8) : Bool :=
  (0x30 ≤ byte && byte ≤ 0x39) || (0x41 ≤ byte && byte ≤ 0x5A) || (0x61 ≤ byte && byte ≤ 0x7A)

/-- Whether a byte stands for itself in the text of a label. A hyphen does so after the first
byte only and a star as the first byte only. -/
def isBare (first : Bool) (byte : UInt8) : Bool :=
  isAlphanumeric byte || byte == 0x5F || (byte == 0x2D && !first) || (byte == 0x2A && first)

/-- The text of a byte of a label: the character itself, the character after a backslash, or three
octal digits after a backslash. -/
def byteText (first : Bool) (byte : UInt8) : List Char :=
  if isBare first byte then [Char.ofNat byte.toNat]
  else if 0x21 ≤ byte ∧ byte ≤ 0x7E then ['\\', Char.ofNat byte.toNat]
  else '\\' :: Numeral.padded 3 8 byte.toNat

def labelText : Bytes → List Char
  | [] => []
  | first :: rest => byteText true first ++ rest.flatMap (byteText false)

def text (name : Name) : List Char :=
  if name.labels.isEmpty then ['.'] else name.labels.flatMap fun label => labelText label ++ ['.']

end Name

end QueryJournal.Dns
