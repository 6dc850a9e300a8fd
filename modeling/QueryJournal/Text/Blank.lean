namespace QueryJournal.Text

/-!
Blanks and the ends of texts. A blank is a character of the Unicode property White_Space,
which has more members than `Char.isWhitespace`.
-/

def isBlank (c : Char) : Bool :=
  let code := c.toNat
  (0x09 ≤ code && code ≤ 0x0D) || code == 0x20 || code == 0x85 || code == 0xA0 ||
    code == 0x1680 || (0x2000 ≤ code && code ≤ 0x200A) || code == 0x2028 || code == 0x2029 ||
    code == 0x202F || code == 0x205F || code == 0x3000

theorem isBlank_of_isWhitespace {c : Char} (white : c.isWhitespace = true) : isBlank c = true := by
  simp only [Char.isWhitespace, Bool.or_eq_true, decide_eq_true_eq] at white
  rcases white with ((rfl | rfl) | rfl) | rfl <;> rfl

def dropEnd (cls : Char → Bool) (text : List Char) : List Char :=
  (text.reverse.dropWhile cls).reverse

def trim (text : List Char) : List Char :=
  dropEnd isBlank (text.dropWhile isBlank)

def fold (text : List Char) : List Char :=
  text.map Char.toLower

def eqIgnoringCase (left right : List Char) : Bool :=
  fold left == fold right

/-- A text without its first part, if it starts with it. -/
def strip? (start text : List Char) : Option (List Char) :=
  match start, text with
  | [], rest => some rest
  | _ :: _, [] => none
  | s :: start, t :: text => if s == t then strip? start text else none

/-- A text without its last part, if it ends with it. -/
def stripEnd? (stop text : List Char) : Option (List Char) :=
  (strip? stop.reverse text.reverse).map List.reverse

end QueryJournal.Text
