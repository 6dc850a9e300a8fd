import QueryJournal.Json.Printer
import QueryJournal.Proofs.Text.Numeral
import QueryJournal.Proofs.Text.Utf8

namespace QueryJournal.Json

open QueryJournal.Document

/-!
A written value holds no control character, so whatever separates values by newlines finds them
whole.
-/

def Printable (text : List Char) : Prop :=
  ∀ c ∈ text, 0x20 ≤ c.toNat

instance (text : List Char) : Decidable (Printable text) :=
  List.decidableBAll (fun c : Char => 0x20 ≤ c.toNat) text

theorem Printable.append (first : Printable left) (second : Printable right) :
    Printable (left ++ right) := by
  intro c member
  rcases List.mem_append.mp member with inLeft | inRight
  · exact first c inLeft
  · exact second c inRight

theorem printable_digits {radix : Nat} {text : List Char} (bounded : radix ≤ 16)
    (digits : ∀ c ∈ text, ∃ digit < radix, c = Numeral.digitChar digit) : Printable text := by
  have printable : ∀ digit < 16, 0x20 ≤ (Numeral.digitChar digit).toNat := by decide
  intro c member
  obtain ⟨digit, small, rfl⟩ := digits c member
  exact printable digit (Nat.lt_of_lt_of_le small bounded)

theorem printable_escapedChar (c : Char) : Printable (escapedChar c) := by
  by_cases named : c ∈ ['"', '\\', '\n', '\r', '\t', '\x08', '\x0C']
  · simp only [List.mem_cons, List.not_mem_nil, or_false] at named
    rcases named with rfl | rfl | rfl | rfl | rfl | rfl | rfl <;> decide
  · simp only [List.mem_cons, List.not_mem_nil, or_false, not_or] at named
    obtain ⟨quote, slash, newline, carriage, tab, backspace, feed⟩ := named
    simp only [escapedChar, beq_iff_eq, quote, slash, newline, carriage, tab, backspace, feed,
      ↓reduceIte]
    split
    · exact Printable.append (by decide)
        (printable_digits (Nat.le_refl 16) fun _ => Numeral.mem_padded (by decide))
    · rename_i large
      intro other member
      rw [List.mem_singleton.mp member]
      exact Nat.le_of_not_lt large

theorem printable_literal (text : String) : Printable (literal text) := by
  refine Printable.append (Printable.append (by decide) ?_) (by decide)
  intro c member
  obtain ⟨plain, _, escaped⟩ := List.mem_flatMap.mp member
  exact printable_escapedChar plain c escaped

theorem printable_signed (number : Int) : Printable (Numeral.signed number) := by
  have decimal : ∀ magnitude, Printable (Numeral.decimal magnitude) := fun magnitude =>
    printable_digits (by decide : 10 ≤ 16) fun _ => Numeral.mem_digits (by decide)
  cases number with
  | ofNat number => exact decimal number
  | negSucc number => exact Printable.append (by decide : Printable ['-']) (decimal (number + 1))

mutual

theorem printable_render : ∀ value : Value, Printable (render value)
  | .null => by decide
  | .bool true => by decide
  | .bool false => by decide
  | .integer value => printable_signed value
  | .text value => printable_literal value
  | .list [] => by decide
  | .list (item :: items) =>
      (((by decide : Printable ['[']).append (printable_render item)).append
        (printable_renderItems items)).append (by decide)
  | .table [] => by decide
  | .table ((name, value) :: members) =>
      (((((by decide : Printable ['\x7b']).append (printable_literal name)).append
        (by decide)).append (printable_render value)).append
          (printable_renderMembers members)).append (by decide)
  | .unread => by decide

theorem printable_renderItems : ∀ items : List Value, Printable (renderItems items)
  | [] => by decide
  | item :: items =>
      ((by decide : Printable [',']).append (printable_render item)).append
        (printable_renderItems items)

theorem printable_renderMembers :
    ∀ members : List (String × Value), Printable (renderMembers members)
  | [] => by decide
  | (name, value) :: members =>
      ((((by decide : Printable [',']).append (printable_literal name)).append
        (by decide)).append (printable_render value)).append (printable_renderMembers members)

end

theorem le_of_mem_encode_render {value : Value} {byte : UInt8}
    (member : byte ∈ Utf8.encode (render value)) : 0x20 ≤ byte.toNat := by
  obtain ⟨c, present, inside⟩ := List.mem_flatMap.mp member
  have printable := printable_render value c present
  rcases Utf8.encodeChar_ascii_or inside with ⟨_, _, same⟩ | outside
  · rwa [same]
  · exact Nat.le_trans (by decide) outside

end QueryJournal.Json
