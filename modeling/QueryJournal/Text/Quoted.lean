import QueryJournal.Text.Glyph
import QueryJournal.Text.Numeral

namespace QueryJournal.Text

/-!
The quoted form in which messages show a text or a single character. Every character without
a glyph of its own and every extender appears by its code point, so that two different texts
are never shown alike.
-/

/-- The mark around a quoted text is `"`, the mark around a quoted character is `'`. -/
inductive QuoteMark where
  | double
  | single
  deriving DecidableEq, Repr

def QuoteMark.char : QuoteMark → Char
  | .double => '"'
  | .single => '\''

def escaped (mark : QuoteMark) (c : Char) : List Char :=
  if c == '\x00' then ['\\', '0']
  else if c == '\t' then ['\\', 't']
  else if c == '\n' then ['\\', 'n']
  else if c == '\r' then ['\\', 'r']
  else if c == '\\' || c == mark.char then ['\\', c]
  else if isExtender c || isGlyphless c then
    ['\\', 'u', '\x7b'] ++ Numeral.digits 16 c.toNat ++ ['\x7d']
  else [c]

def quoted (text : String) : String :=
  String.ofList (['"'] ++ text.toList.flatMap (escaped .double) ++ ['"'])

def quotedChar (c : Char) : String :=
  String.ofList (['\''] ++ escaped .single c ++ ['\''])

end QueryJournal.Text
