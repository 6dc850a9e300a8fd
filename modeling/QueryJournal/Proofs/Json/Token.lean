import QueryJournal.Json.Printer
import QueryJournal.Json.Token
import QueryJournal.Proofs.Text.Numeral
import QueryJournal.Proofs.Text.Utf8

namespace QueryJournal.Json

open QueryJournal.Utf8 (Bytes encode encodeChar encode_append)

/-!
The lexer finds the tokens of a written value. A string literal and a word end with their last
byte. A number ends only with the byte after it, so what the lexer holds after a value is stated by
`Lexer.Holds`, which leaves open whether the last token is still under way.
-/

namespace Lexer

def after? (lexer : Lexer) (text : List Char) : Option Lexer :=
  (encode text).foldlM step lexer

variable {lexer : Lexer} {found : List Token} {pieces : List Piece}

theorem after?_append (lexer : Lexer) (left right : List Char) :
    lexer.after? (left ++ right) = (lexer.after? left).bind fun next => next.after? right := by
  rw [after?, encode_append, List.foldlM_append]
  rfl

theorem after?_ascii {c : Char} (ascii : c.toNat < 0x80) (text : List Char) :
    lexer.after? (c :: text) =
      (lexer.step (UInt8.ofNat c.toNat)).bind fun next => next.after? text := by
  have bytes : encodeChar c = [UInt8.ofNat c.toNat] := by
    simp only [encodeChar, ascii, ↓reduceIte]
  rw [after?, encode, List.flatMap_cons, bytes, List.singleton_append, List.foldlM_cons]
  rfl

end Lexer

/-!
### String literals
-/

def piecesOf (c : Char) : List Piece :=
  if c.toNat < 0x20 ∧ c ∉ ['\n', '\r', '\t', '\x08', '\x0C'] then [.unit c.toNat]
  else (encodeChar c).map .byte

theorem bytesOnto_bytes (done bytes : Bytes) (rest : List Piece) :
    Piece.bytesOnto done (bytes.map .byte ++ rest) = Piece.bytesOnto (bytes.reverse ++ done) rest := by
  induction bytes generalizing done with
  | nil => rfl
  | cons byte bytes ih =>
      rw [List.map_cons, List.cons_append, Piece.bytesOnto, ih, List.reverse_cons,
        List.append_assoc, List.singleton_append]

theorem bytesOnto_piecesOf (done : Bytes) (c : Char) (rest : List Piece) :
    Piece.bytesOnto done (piecesOf c ++ rest) =
      Piece.bytesOnto ((encodeChar c).reverse ++ done) rest := by
  unfold piecesOf
  split
  · rename_i control
    have high : isHighSurrogate c.toNat = false := by
      simp only [isHighSurrogate, Bool.and_eq_false_iff, decide_eq_false_iff_not]
      omega
    have low : isLowSurrogate c.toNat = false := by
      simp only [isLowSurrogate, Bool.and_eq_false_iff, decide_eq_false_iff_not]
      omega
    rw [List.singleton_append, Piece.bytesOnto.eq_def]
    simp only [high, low, Bool.false_eq_true, ↓reduceIte, Piece.bytesOnto.encodeUnit,
      Char.ofNat_toNat]
  · exact bytesOnto_bytes done (encodeChar c) rest

theorem text?_piecesOf (text : List Char) :
    Piece.text? (text.flatMap piecesOf) = some (String.ofList text) := by
  have bytes : ∀ done, Piece.bytesOnto done (text.flatMap piecesOf) =
      some (done.reverse ++ encode text) := by
    induction text with
    | nil => simp [Piece.bytesOnto, encode]
    | cons c text ih =>
        intro done
        rw [List.flatMap_cons, bytesOnto_piecesOf, ih]
        simp [encode]
  rw [Piece.text?, bytes, Option.bind_some, List.reverse_nil, List.nil_append,
    Utf8.toString?_encode]

namespace Lexer

variable {found : List Token} {pieces : List Piece}

private theorem step_plain {byte : UInt8} (large : 0x20 ≤ byte.toNat) (quote : byte ≠ 0x22)
    (slash : byte ≠ 0x5C) :
    step { found, mode := .text pieces } byte =
      some { found, mode := .text (.byte byte :: pieces) } := by
  have control : ¬ byte < 0x20 := by
    rw [UInt8.lt_iff_toNat_lt]
    exact Nat.not_lt.mpr large
  simp only [step, beq_iff_eq, quote, slash, control, ↓reduceIte]

private theorem foldlM_plain (bytes : Bytes)
    (plain : ∀ byte ∈ bytes, 0x20 ≤ byte.toNat ∧ byte ≠ 0x22 ∧ byte ≠ 0x5C) :
    bytes.foldlM step { found, mode := .text pieces } =
      some { found, mode := .text ((bytes.map Piece.byte).reverse ++ pieces) } := by
  induction bytes generalizing pieces with
  | nil => rfl
  | cons byte bytes ih =>
      obtain ⟨large, quote, slash⟩ := plain byte (by simp)
      rw [List.foldlM_cons, step_plain large quote slash]
      exact (ih fun other member => plain other (by simp [member])).trans (by simp)

private theorem padded_control {code : Nat} (small : code < 0x20) :
    Numeral.padded 4 16 code =
      ['0', '0', Numeral.digitChar (code / 16), Numeral.digitChar (code % 16)] := by
  by_cases one : code < 16
  · rw [Numeral.padded, Numeral.digits_of_lt one, Nat.div_eq_of_lt one, Nat.mod_eq_of_lt one]
    rfl
  · have first : code / 16 < 16 := by omega
    rw [Numeral.padded, Numeral.digits_of_le (Nat.le_of_not_lt one) (by decide),
      Numeral.digits_of_lt first]
    rfl

/-- A hexadecimal digit that is not the last one. -/
private theorem step_unit {byte : UInt8} {missing code digit : Nat} (more : 1 < missing)
    (read : Numeral.digitIn? 16 (Char.ofNat byte.toNat) = some digit) :
    step { found, mode := .unit pieces missing code } byte =
      some { found, mode := .unit pieces (missing - 1) (code * 16 + digit) } := by
  simp only [step, read, Option.map_some, Nat.not_le.mpr more, ↓reduceIte]

/-- The last hexadecimal digit. -/
private theorem step_last_unit {byte : UInt8} {code digit : Nat}
    (read : Numeral.digitIn? 16 (Char.ofNat byte.toNat) = some digit) :
    step { found, mode := .unit pieces 1 code } byte =
      some { found, mode := .text (.unit (code * 16 + digit) :: pieces) } := by
  simp only [step, read, Option.map_some, Nat.le_refl, ↓reduceIte]

private theorem after?_control {c : Char} (small : c.toNat < 0x20) :
    after? { found, mode := .text pieces } (['\\', 'u'] ++ Numeral.padded 4 16 c.toNat) =
      some { found, mode := .text (.unit c.toNat :: pieces) } := by
  let byteOf : Nat → UInt8 := fun digit => UInt8.ofNat (Numeral.digitChar digit).toNat
  have bytes : ∀ code < 0x20,
      encode ['\\', 'u', '0', '0', Numeral.digitChar (code / 16), Numeral.digitChar (code % 16)] =
        [0x5C, 0x75, 0x30, 0x30, byteOf (code / 16), byteOf (code % 16)] := by
    decide
  have digit : ∀ code < 16, Numeral.digitIn? 16 (Char.ofNat (byteOf code).toNat) = some code := by
    decide
  have zeros : ∀ rest : Bytes,
      ([0x5C, 0x75, 0x30, 0x30] ++ rest).foldlM step { found, mode := .text pieces } =
        rest.foldlM step { found, mode := .unit pieces 2 0 } := fun _ => rfl
  have first := digit (c.toNat / 16) (by omega)
  have second := digit (c.toNat % 16) (Nat.mod_lt _ (by decide))
  rw [padded_control small, after?]
  refine (congrArg (List.foldlM step _) (bytes _ small)).trans ((zeros _).trans ?_)
  rw [List.foldlM_cons, step_unit (by decide) first]
  change List.foldlM step { found, mode := .unit pieces 1 (0 * 16 + c.toNat / 16) } _ = _
  rw [List.foldlM_cons, step_last_unit second]
  have whole : (0 * 16 + c.toNat / 16) * 16 + c.toNat % 16 = c.toNat := by omega
  rw [whole]
  rfl

/-- The lexer takes one character of a literal, whichever way it is written. -/
theorem after?_escapedChar (c : Char) :
    after? { found, mode := .text pieces } (escapedChar c) =
      some { found, mode := .text ((piecesOf c).reverse ++ pieces) } := by
  by_cases named : c ∈ ['"', '\\', '\n', '\r', '\t', '\x08', '\x0C']
  · simp only [List.mem_cons, List.not_mem_nil, or_false] at named
    rcases named with rfl | rfl | rfl | rfl | rfl | rfl | rfl <;> rfl
  · simp only [List.mem_cons, List.not_mem_nil, or_false, not_or] at named
    obtain ⟨quote, slash, newline, carriage, tab, backspace, feed⟩ := named
    by_cases control : c.toNat < 0x20
    · have pieces : piecesOf c = [.unit c.toNat] := by
        simp only [piecesOf, control, true_and, List.mem_cons, List.not_mem_nil, newline,
          carriage, tab, backspace, feed, or_self, not_false_eq_true, ↓reduceIte]
      have escaped : escapedChar c = ['\\', 'u'] ++ Numeral.padded 4 16 c.toNat := by
        simp only [escapedChar, beq_iff_eq, quote, slash, newline, carriage, tab, backspace, feed,
          control, ↓reduceIte]
      rw [escaped, after?_control control, pieces]
      rfl
    · have pieces : piecesOf c = (encodeChar c).map .byte := by
        simp only [piecesOf, control, false_and, ↓reduceIte]
      have escaped : escapedChar c = [c] := by
        simp only [escapedChar, beq_iff_eq, quote, slash, newline, carriage, tab, backspace, feed,
          control, ↓reduceIte]
      rw [escaped, after?, encode, List.flatMap_singleton, foldlM_plain, pieces]
      intro byte member
      rcases Utf8.encodeChar_ascii_or member with ⟨_, _, value⟩ | outside
      · refine ⟨by omega, ?_, ?_⟩ <;> rintro rfl
        · exact quote (Char.toNat_inj.mp value.symm)
        · exact slash (Char.toNat_inj.mp value.symm)
      · refine ⟨by omega, ?_, ?_⟩ <;> rintro rfl <;> revert outside <;> decide

theorem after?_literal (text : String) :
    after? { found, mode := .between } (literal text) = some (emit found (.text (some text))) := by
  have body : ∀ (text : List Char) pieces,
      after? { found, mode := .text pieces } (text.flatMap escapedChar) =
        some { found, mode := .text ((text.flatMap piecesOf).reverse ++ pieces) } := by
    intro text
    induction text with
    | nil => exact fun _ => rfl
    | cons c text ih =>
        intro pieces
        rw [List.flatMap_cons, after?_append, after?_escapedChar, Option.bind_some, ih]
        simp
  have opened : after? { found, mode := .between } ['"'] = some { found, mode := .text [] } := rfl
  have closed : ∀ pieces, after? { found, mode := .text pieces } ['"'] =
      some (emit found (.text (Piece.text? pieces.reverse))) := fun _ => rfl
  rw [literal, after?_append, after?_append, opened, Option.bind_some, body, Option.bind_some,
    closed, List.append_nil, List.reverse_reverse, text?_piecesOf, String.ofList_toList]

/-!
### Numbers and whole values
-/

/-- The lexer has found tokens of which the last may be a number that only the next byte ends. -/
def Holds (found : List Token) (lexer : Lexer) : Prop :=
  lexer = { found, mode := .between } ∨
    ∃ part value before, lexer = { found := before, mode := .number part } ∧
      found = .scalar value :: before ∧ part.value? = some value ∧
      (part.phase = .zero ∨ part.phase = .whole)

theorem Holds.tokens? (holds : Holds found lexer) : lexer.tokens? = some found.reverse := by
  rcases holds with rfl | ⟨part, value, before, rfl, rfl, read, _⟩
  · rfl
  · simp only [Lexer.tokens?, read, Option.map_some]

/-- A mark between values is a token of its own, and ends a number before it. -/
theorem Holds.after?_mark (holds : Holds found lexer) (mark : Char) (token : Token)
    (known : (mark, token) ∈
      [(',', .comma), (':', .colon), (']', .closeList), ('\x7d', .closeTable)]) :
    lexer.after? [mark] = some { found := token :: found, mode := .between } := by
  have between : after? { found, mode := .between } [mark] =
      some { found := token :: found, mode := .between } := by
    simp only [List.mem_cons, List.not_mem_nil, or_false, Prod.mk.injEq] at known
    rcases known with ⟨rfl, rfl⟩ | ⟨rfl, rfl⟩ | ⟨rfl, rfl⟩ | ⟨rfl, rfl⟩ <;> rfl
  rcases holds with rfl | ⟨part, value, before, rfl, rfl, read, phase⟩
  · exact between
  · have ascii : mark.toNat < 0x80 := by
      simp only [List.mem_cons, List.not_mem_nil, or_false, Prod.mk.injEq] at known
      rcases known with ⟨rfl, _⟩ | ⟨rfl, _⟩ | ⟨rfl, _⟩ | ⟨rfl, _⟩ <;> decide
    have stops : part.next? (UInt8.ofNat mark.toNat) = none := by
      simp only [List.mem_cons, List.not_mem_nil, or_false, Prod.mk.injEq] at known
      rcases known with ⟨rfl, _⟩ | ⟨rfl, _⟩ | ⟨rfl, _⟩ | ⟨rfl, _⟩ <;>
        rcases phase with phase | phase <;> simp only [NumberPart.next?, phase] <;> rfl
    rw [after?_ascii ascii] at between ⊢
    simpa only [step, stops, read, Option.bind_some] using between

private theorem digit_cases {digit : Nat} (small : digit < 10) :
    digit = 0 ∨ digit = 1 ∨ digit = 2 ∨ digit = 3 ∨ digit = 4 ∨ digit = 5 ∨ digit = 6 ∨
      digit = 7 ∨ digit = 8 ∨ digit = 9 := by
  omega

def inNumber (found : List Token) (negative : Bool) (magnitude : Nat) (phase : NumberPhase) :
    Lexer :=
  { found, mode := .number { negative, magnitude, phase } }

private theorem after?_digits {negative : Bool} (magnitude : Nat) (text : List Char)
    (digits : ∀ c ∈ text, ∃ digit < 10, c = Numeral.digitChar digit) :
    (inNumber found negative magnitude .whole).after? text =
      some (inNumber found negative
        (text.foldl (fun total c => total * 10 + (Numeral.digitValue? c).getD 0) magnitude)
        .whole) := by
  induction text generalizing magnitude with
  | nil => rfl
  | cons c text ih =>
      obtain ⟨digit, small, rfl⟩ := digits c (by simp)
      have stepped :
          (inNumber found negative magnitude .whole).after? (Numeral.digitChar digit :: text) =
            (inNumber found negative (magnitude * 10 + digit) .whole).after? text := by
        rcases digit_cases small with rfl | rfl | rfl | rfl | rfl | rfl | rfl | rfl | rfl | rfl <;>
          exact after?_ascii (by decide) text
      rw [stepped, ih _ fun other member => digits other (by simp [member]), List.foldl_cons,
        Numeral.digitValue?_digitChar digit (by omega), Option.getD_some]

private theorem after?_decimal {negative : Bool} (number : Nat) :
    (inNumber found negative 0 .sign).after? (Numeral.decimal number) =
      some (inNumber found negative number (if number = 0 then .zero else .whole)) := by
  obtain ⟨digit, rest, written, small, leading, alone⟩ :=
    Numeral.digits_eq_cons (by decide : 2 ≤ 10) number
  rw [Numeral.decimal, written]
  by_cases zero : number = 0
  · subst zero
    rw [leading.mpr rfl, alone rfl]
    rfl
  · have value := Numeral.value_digits (by decide : 2 ≤ 10) (by decide) number
    rw [written, Numeral.value, List.foldl_cons, Numeral.digitValue?_digitChar digit (by omega),
      Option.getD_some, Nat.zero_mul, Nat.zero_add] at value
    have others : ∀ c ∈ rest, ∃ digit < 10, c = Numeral.digitChar digit := fun c member =>
      Numeral.mem_digits (by decide) (written ▸ List.mem_cons_of_mem _ member)
    have stepped :
        (inNumber found negative 0 .sign).after? (Numeral.digitChar digit :: rest) =
          (inNumber found negative digit .whole).after? rest := by
      have nonzero : digit ≠ 0 := fun none => zero (leading.mp none)
      rcases digit_cases small with rfl | rfl | rfl | rfl | rfl | rfl | rfl | rfl | rfl | rfl
      · contradiction
      all_goals exact after?_ascii (by decide) rest
    rw [stepped, after?_digits digit rest others, value, if_neg zero]

private theorem between_decimal (number : Nat) :
    after? { found, mode := .between } (Numeral.decimal number) =
      (inNumber found false 0 .sign).after? (Numeral.decimal number) := by
  obtain ⟨digit, rest, written, small, _⟩ := Numeral.digits_eq_cons (by decide : 2 ≤ 10) number
  rw [Numeral.decimal, written]
  rcases digit_cases small with rfl | rfl | rfl | rfl | rfl | rfl | rfl | rfl | rfl | rfl <;> rfl

theorem holds_signed (found : List Token) (number : Int) :
    ∃ lexer, after? { found, mode := .between } (Numeral.signed number) = some lexer ∧
      Holds (.scalar (.integer number) :: found) lexer := by
  cases number with
  | ofNat number =>
      refine ⟨_, (between_decimal number).trans (after?_decimal number), .inr ?_⟩
      refine ⟨_, .integer (.ofNat number), found, rfl, rfl, ?_, ?_⟩
      · by_cases zero : number = 0
        · subst zero
          rfl
        · simp only [NumberPart.value?, if_neg zero]
          rfl
      · by_cases zero : number = 0 <;> simp [zero]
  | negSucc number =>
      have signed : after? { found, mode := .between } (Numeral.signed (.negSucc number)) =
          (inNumber found true 0 .sign).after? (Numeral.decimal (number + 1)) :=
        after?_ascii (by decide) _
      refine ⟨_, signed.trans (after?_decimal (number + 1)), .inr ?_⟩
      exact ⟨_, .integer (.negSucc number), found, rfl, rfl, rfl, .inr rfl⟩

end Lexer

open Document

mutual

def tokensOf : Value → List Token
  | .null => [.scalar .null]
  | .bool value => [.scalar (.bool value)]
  | .integer value => [.scalar (.integer value)]
  | .text value => [.text (some value)]
  | .list [] => [.openList, .closeList]
  | .list (item :: items) => [.openList] ++ tokensOf item ++ itemTokens items ++ [.closeList]
  | .table [] => [.openTable, .closeTable]
  | .table ((name, value) :: members) =>
      [.openTable, .text (some name), .colon] ++ tokensOf value ++ memberTokens members ++
        [.closeTable]
  | .unread => [.scalar .null]

def itemTokens : List Value → List Token
  | [] => []
  | item :: items => [.comma] ++ tokensOf item ++ itemTokens items

def memberTokens : List (String × Value) → List Token
  | [] => []
  | (name, value) :: members =>
      [.comma, .text (some name), .colon] ++ tokensOf value ++ memberTokens members

end

namespace Lexer

mutual

theorem holds_render (found : List Token) : ∀ value : Value,
    ∃ lexer, after? { found, mode := .between } (render value) = some lexer ∧
      Holds ((tokensOf value).reverse ++ found) lexer
  | .null => ⟨_, rfl, .inl rfl⟩
  | .bool true => ⟨_, rfl, .inl rfl⟩
  | .bool false => ⟨_, rfl, .inl rfl⟩
  | .integer value => holds_signed found value
  | .text value => ⟨_, after?_literal value, .inl rfl⟩
  | .list [] => ⟨_, rfl, .inl rfl⟩
  | .list (item :: items) => by
      have opened : after? { found, mode := .between } ['['] =
          some { found := .openList :: found, mode := .between } := rfl
      obtain ⟨first, readItem, holdsItem⟩ := holds_render (.openList :: found) item
      obtain ⟨last, readItems, holdsItems⟩ := holds_renderItems holdsItem items
      have closed := holdsItems.after?_mark ']' .closeList (by simp)
      refine ⟨_, ?_, .inl rfl⟩
      rw [render, after?_append, after?_append, after?_append, opened, Option.bind_some, readItem,
        Option.bind_some, readItems, Option.bind_some, closed]
      simp [tokensOf]
  | .table [] => ⟨_, rfl, .inl rfl⟩
  | .table ((name, value) :: members) => by
      have opened : after? { found, mode := .between } ['\x7b'] =
          some { found := .openTable :: found, mode := .between } := rfl
      have named : after? { found := .openTable :: found, mode := .between } (literal name) =
          some { found := .text (some name) :: .openTable :: found, mode := .between } :=
        after?_literal name
      have colon : after? { found := .text (some name) :: .openTable :: found, mode := .between }
          [':'] = some { found := .colon :: .text (some name) :: .openTable :: found
                         mode := .between } := rfl
      obtain ⟨first, readValue, holdsValue⟩ :=
        holds_render (.colon :: .text (some name) :: .openTable :: found) value
      obtain ⟨last, readMembers, holdsMembers⟩ := holds_renderMembers holdsValue members
      have closed := holdsMembers.after?_mark '\x7d' .closeTable (by simp)
      refine ⟨_, ?_, .inl rfl⟩
      rw [render, after?_append, after?_append, after?_append, after?_append, after?_append, opened,
        Option.bind_some, named, Option.bind_some, colon, Option.bind_some, readValue,
        Option.bind_some, readMembers, Option.bind_some, closed]
      simp [tokensOf]
  | .unread => ⟨_, rfl, .inl rfl⟩

theorem holds_renderItems {found : List Token} {lexer : Lexer} (holds : Holds found lexer) :
    ∀ items : List Value,
      ∃ after, lexer.after? (renderItems items) = some after ∧
        Holds ((itemTokens items).reverse ++ found) after
  | [] => ⟨lexer, rfl, holds⟩
  | item :: items => by
      have comma := holds.after?_mark ',' .comma (by simp)
      obtain ⟨first, readItem, holdsItem⟩ := holds_render (.comma :: found) item
      obtain ⟨last, readItems, holdsItems⟩ := holds_renderItems holdsItem items
      refine ⟨last, ?_, ?_⟩
      · rw [renderItems, after?_append, after?_append, comma, Option.bind_some, readItem,
          Option.bind_some, readItems]
      · simpa [itemTokens] using holdsItems

theorem holds_renderMembers {found : List Token} {lexer : Lexer} (holds : Holds found lexer) :
    ∀ members : List (String × Value),
      ∃ after, lexer.after? (renderMembers members) = some after ∧
        Holds ((memberTokens members).reverse ++ found) after
  | [] => ⟨lexer, rfl, holds⟩
  | (name, value) :: members => by
      have comma := holds.after?_mark ',' .comma (by simp)
      have named : after? { found := .comma :: found, mode := .between } (literal name) =
          some { found := .text (some name) :: .comma :: found, mode := .between } :=
        after?_literal name
      have colon : after? { found := .text (some name) :: .comma :: found, mode := .between }
          [':'] = some { found := .colon :: .text (some name) :: .comma :: found
                         mode := .between } := rfl
      obtain ⟨first, readValue, holdsValue⟩ :=
        holds_render (.colon :: .text (some name) :: .comma :: found) value
      obtain ⟨last, readMembers, holdsMembers⟩ := holds_renderMembers holdsValue members
      refine ⟨last, ?_, ?_⟩
      · rw [renderMembers, after?_append, after?_append, after?_append, after?_append, comma,
          Option.bind_some, named, Option.bind_some, colon, Option.bind_some, readValue,
          Option.bind_some, readMembers]
      · simpa [memberTokens] using holdsMembers

end

end Lexer

theorem tokens?_render (value : Value) :
    tokens? (encode (render value)) = some (tokensOf value) := by
  obtain ⟨lexer, read, holds⟩ := Lexer.holds_render [] value
  have run : (encode (render value)).foldlM Lexer.step Lexer.start = some lexer := read
  rw [tokens?, run, Option.bind_some, holds.tokens?]
  simp

end QueryJournal.Json
