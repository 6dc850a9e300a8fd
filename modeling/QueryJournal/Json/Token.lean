import QueryJournal.Document.Value
import QueryJournal.Text.Numeral
import QueryJournal.Text.Utf8

namespace QueryJournal.Json

open QueryJournal.Document
open QueryJournal.Utf8 (Bytes)

/-!
The tokens of a JSON text. `Lexer.step` takes one byte, so the tokens of two texts in a row are
found by two runs in a row, and every text is read in one pass without recursion on nesting.
-/

/-- A part of a string literal between its marks: a byte that stands for itself, or a sixteen-bit
unit written as four hexadecimal digits. -/
inductive Piece where
  | byte (value : UInt8)
  | unit (value : Nat)
  deriving DecidableEq, Repr

def isHighSurrogate (unit : Nat) : Bool :=
  0xD800 ≤ unit && unit < 0xDC00

def isLowSurrogate (unit : Nat) : Bool :=
  0xDC00 ≤ unit && unit < 0xE000

/-- The bytes that pieces stand for, appended in reverse to `done`; an unpaired surrogate stands
for nothing. -/
def Piece.bytesOnto (done : Bytes) : List Piece → Option Bytes
  | [] => some done.reverse
  | .byte value :: rest => bytesOnto (value :: done) rest
  | .unit high :: rest =>
    if isHighSurrogate high then
      match rest with
      | .unit low :: rest =>
        if isLowSurrogate low then
          let code := 0x10000 + (high - 0xD800) * 0x400 + (low - 0xDC00)
          bytesOnto ((encodeUnit code).reverse ++ done) rest
        else none
      | _ => none
    else if isLowSurrogate high then none
    else bytesOnto ((encodeUnit high).reverse ++ done) rest
where
  encodeUnit (code : Nat) : Bytes := Utf8.encodeChar (Char.ofNat code)

def Piece.text? (pieces : List Piece) : Option String :=
  (Piece.bytesOnto [] pieces).bind Utf8.toString?

/-- A token. A string literal that denotes no text is still a token. -/
inductive Token where
  | openTable
  | closeTable
  | openList
  | closeList
  | colon
  | comma
  | text (value : Option String)
  | scalar (value : Value)

/-- Where a number literal stands. -/
inductive NumberPhase where
  | sign
  | zero
  | whole
  | point
  | fraction
  | exponentMark
  | exponentSign
  | exponent
  deriving DecidableEq, Repr

/-- A number literal under way: its sign, the value of its whole digits and its phase. -/
structure NumberPart where
  negative : Bool
  magnitude : Nat
  phase : NumberPhase
  deriving DecidableEq, Repr

def isDigitByte (byte : UInt8) : Bool :=
  0x30 ≤ byte && byte ≤ 0x39

namespace NumberPart

def next? (part : NumberPart) (byte : UInt8) : Option NumberPart :=
  let digit := byte.toNat - 0x30
  let isMark := byte == 0x65 || byte == 0x45
  match part.phase with
  | .sign =>
    if byte == 0x30 then some { part with phase := .zero }
    else if isDigitByte byte then some { part with magnitude := digit, phase := .whole }
    else none
  | .zero =>
    if byte == 0x2E then some { part with phase := .point }
    else if isMark then some { part with phase := .exponentMark }
    else none
  | .whole =>
    if isDigitByte byte then some { part with magnitude := part.magnitude * 10 + digit }
    else if byte == 0x2E then some { part with phase := .point }
    else if isMark then some { part with phase := .exponentMark }
    else none
  | .point => if isDigitByte byte then some { part with phase := .fraction } else none
  | .fraction =>
    if isDigitByte byte then some part
    else if isMark then some { part with phase := .exponentMark }
    else none
  | .exponentMark =>
    if isDigitByte byte then some { part with phase := .exponent }
    else if byte == 0x2B || byte == 0x2D then some { part with phase := .exponentSign }
    else none
  | .exponentSign | .exponent =>
    if isDigitByte byte then some { part with phase := .exponent } else none

/-- The value of a complete literal. Only a literal without fraction and exponent is an integer,
and minus zero is not one. -/
def value? (part : NumberPart) : Option Value :=
  match part.phase with
  | .zero => some (if part.negative then .unread else .integer 0)
  | .whole => some (.integer (if part.negative then -(part.magnitude : Int) else part.magnitude))
  | .fraction | .exponent => some .unread
  | _ => none

end NumberPart

/-- What the lexer is in the middle of. The pieces of a literal are held last first. -/
inductive Mode where
  | between
  | word (rest : Bytes) (value : Value)
  | number (part : NumberPart)
  | text (pieces : List Piece)
  | escape (pieces : List Piece)
  | unit (pieces : List Piece) (missing code : Nat)

/-- The tokens found so far, last first, and the token under way. -/
structure Lexer where
  found : List Token
  mode : Mode

namespace Lexer

def start : Lexer :=
  { found := [], mode := .between }

def emit (found : List Token) (token : Token) : Lexer :=
  { found := token :: found, mode := .between }

def begin (found : List Token) (byte : UInt8) : Option Lexer :=
  if byte == 0x20 || byte == 0x09 || byte == 0x0A || byte == 0x0D then
    some { found, mode := .between }
  else if byte == 0x7B then some (emit found .openTable)
  else if byte == 0x7D then some (emit found .closeTable)
  else if byte == 0x5B then some (emit found .openList)
  else if byte == 0x5D then some (emit found .closeList)
  else if byte == 0x3A then some (emit found .colon)
  else if byte == 0x2C then some (emit found .comma)
  else if byte == 0x22 then some { found, mode := .text [] }
  else if byte == 0x6E then some { found, mode := .word [0x75, 0x6C, 0x6C] .null }
  else if byte == 0x74 then some { found, mode := .word [0x72, 0x75, 0x65] (.bool true) }
  else if byte == 0x66 then some { found, mode := .word [0x61, 0x6C, 0x73, 0x65] (.bool false) }
  else if byte == 0x2D then
    some { found, mode := .number { negative := true, magnitude := 0, phase := .sign } }
  else
    (NumberPart.next? { negative := false, magnitude := 0, phase := .sign } byte).map
      fun part => { found, mode := .number part }

def escapeByte? (byte : UInt8) : Option UInt8 :=
  if byte == 0x22 || byte == 0x5C || byte == 0x2F then some byte
  else if byte == 0x62 then some 0x08
  else if byte == 0x66 then some 0x0C
  else if byte == 0x6E then some 0x0A
  else if byte == 0x72 then some 0x0D
  else if byte == 0x74 then some 0x09
  else none

def step (lexer : Lexer) (byte : UInt8) : Option Lexer :=
  match lexer.mode with
  | .between => begin lexer.found byte
  | .word [] _ => none
  | .word [last] value =>
    if byte == last then some (emit lexer.found (.scalar value)) else none
  | .word (first :: rest) value =>
    if byte == first then some { lexer with mode := .word rest value } else none
  | .number part =>
    match part.next? byte with
    | some part => some { lexer with mode := .number part }
    | none => part.value?.bind fun value => begin (.scalar value :: lexer.found) byte
  | .text pieces =>
    if byte == 0x22 then some (emit lexer.found (.text (Piece.text? pieces.reverse)))
    else if byte == 0x5C then some { lexer with mode := .escape pieces }
    else if byte < 0x20 then none
    else some { lexer with mode := .text (.byte byte :: pieces) }
  | .escape pieces =>
    if byte == 0x75 then some { lexer with mode := .unit pieces 4 0 }
    else (escapeByte? byte).map fun value => { lexer with mode := .text (.byte value :: pieces) }
  | .unit pieces missing code =>
    (Numeral.digitIn? 16 (Char.ofNat byte.toNat)).map fun digit =>
      let code := code * 16 + digit
      if missing ≤ 1 then { lexer with mode := .text (.unit code :: pieces) }
      else { lexer with mode := .unit pieces (missing - 1) code }

def tokens? (lexer : Lexer) : Option (List Token) :=
  match lexer.mode with
  | .between => some lexer.found.reverse
  | .number part => part.value?.map fun value => (Token.scalar value :: lexer.found).reverse
  | _ => none

end Lexer

def tokens? (bytes : Bytes) : Option (List Token) :=
  (bytes.foldlM Lexer.step Lexer.start).bind Lexer.tokens?

end QueryJournal.Json
