import QueryJournal.Text.Blank

namespace QueryJournal.Text

/-!
Reading a text from its start. A scan answers what it has read and the rest of the text, so one
scan goes on where another one has stopped.
-/

/-- What is read from the start of a text, and the rest, if the text starts with it. -/
abbrev Scan (α : Type) := List Char → Option (α × List Char)

/-- Reads pieces as long as there are any and each takes something away. -/
def many {α : Type} (piece : Scan α) (text : List Char) : List α × List Char :=
  match piece text with
  | none => ([], text)
  | some (first, rest) =>
    if rest.length < text.length then
      let (others, last) := many piece rest
      (first :: others, last)
    else ([], text)
termination_by text.length

/-- Reads characters of a class, of which there may be none. -/
def run (cls : Char → Bool) (text : List Char) : List Char × List Char :=
  (text.takeWhile cls, text.dropWhile cls)

def skip? (mark : Char) : List Char → Option (List Char)
  | c :: rest => if c == mark then some rest else none
  | [] => none

def exactly? (count : Nat) (cls : Char → Bool) : Scan (List Char) := fun text =>
  let part := text.take count
  if part.length = count ∧ part.all cls then some (part, text.drop count) else none

end QueryJournal.Text
