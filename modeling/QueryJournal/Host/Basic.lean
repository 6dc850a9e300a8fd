import QueryJournal.Text.Blank
import QueryJournal.Text.Quoted

namespace QueryJournal.Host

open QueryJournal.Text

/-!
Host names in the form in which they are recorded and compared: without blanks around them,
without points at their end and with lower-case ASCII letters.
-/

/-- The form of a host in which it is recorded and compared. -/
def normal (host : List Char) : List Char :=
  fold (dropEnd (· == '.') (trim host))

def maxLabelLength : Nat := 63

/-- The longest host, counted as on the wire. -/
def maxLength : Nat := 255

/-- Why a text is no host name. -/
inductive Fault where
  | character (c : Char)
  | emptyLabel
  | longLabel (length : Nat)
  | leadingHyphen (label : List Char)
  | longName (length : Nat)
  deriving DecidableEq, Repr

def Fault.message : Fault → String
  | .character c => "invalid character " ++ quotedChar c
  | .emptyLabel => "empty label"
  | .longLabel length => "label bytes exceed 63: " ++ String.ofList (Numeral.decimal length)
  | .leadingHyphen label => "Malformed label: " ++ String.ofList label
  | .longName length =>
    "name label data exceed 255: " ++ String.ofList (Numeral.decimal length)

def isHostCharacter (c : Char) : Bool :=
  c.isAlphanum || c == '-' || c == '_' || c == '.'

/-- Checks labels in turn. `length` is the length on the wire of those before, with the root. -/
def checkLabels (length : Nat) : List (List Char) → Except Fault Unit
  | [] => .ok ()
  | label :: rest =>
    let total := length + label.length + 1
    if maxLabelLength < label.length then .error (.longLabel label.length)
    else if label.head? = some '-' then .error (.leadingHyphen label)
    else if maxLength < total then .error (.longName total)
    else checkLabels total rest

def check (host : List Char) : Except Fault Unit :=
  match host.find? fun c => !isHostCharacter c with
  | some c => .error (.character c)
  | none =>
    let labels := host.splitOn '.'
    if labels.any List.isEmpty then .error .emptyLabel else checkLabels 1 labels

end QueryJournal.Host
