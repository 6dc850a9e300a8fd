import Mathlib
import QueryJournal.Text.Utf8

namespace QueryJournal.Utf8

/-!
Decoding undoes encoding. A character is taken whole whatever follows it, so the text of several
encoded parts is found part by part.
-/

variable {done text : List Char} {c : Char} {byte : UInt8} {rest : Bytes}

theorem scalar?_toNat {least : Nat} (enough : least ≤ c.toNat) :
    scalar? least c.toNat = some c := by
  have valid : c.toNat.isValidChar := c.valid
  have same : Char.ofNatAux c.toNat valid = c := Char.ext rfl
  simp only [scalar?, valid, ↓reduceDIte, enough, ↓reduceIte, same]

theorem continuation?_ofNat {bits : Nat} (small : bits < 0x40) :
    continuation? (UInt8.ofNat (0x80 + bits)) = some bits := by
  have value : (UInt8.ofNat (0x80 + bits)).toNat = 0x80 + bits := by
    rw [UInt8.toNat_ofNat']
    omega
  have inside : 0x80 ≤ UInt8.ofNat (0x80 + bits) ∧ UInt8.ofNat (0x80 + bits) ≤ 0xBF := by
    rw [UInt8.le_iff_toNat_le, UInt8.le_iff_toNat_le, value]
    exact ⟨Nat.le_add_right _ _, by change 0x80 + bits ≤ 0xBF; omega⟩
  rw [continuation?, if_pos inside, value, Nat.add_sub_cancel_left]

/-- The first byte of a character is compared with a bound as the number it was made from. -/
private theorem ofNat_lt {number : Nat} (bound : Nat) (bounded : bound < 0x100)
    (below : number < bound) : UInt8.ofNat number < UInt8.ofNat bound := by
  rw [UInt8.lt_iff_toNat_lt, UInt8.toNat_ofNat', UInt8.toNat_ofNat', Nat.mod_eq_of_lt bounded,
    Nat.mod_eq_of_lt (Nat.lt_trans below bounded)]
  exact below

private theorem not_ofNat_lt {number : Nat} (bound : Nat) (small : number < 0x100)
    (above : bound ≤ number) : ¬ UInt8.ofNat number < UInt8.ofNat bound := by
  rw [UInt8.lt_iff_toNat_lt, UInt8.toNat_ofNat', UInt8.toNat_ofNat', Nat.mod_eq_of_lt small,
    Nat.mod_eq_of_lt (Nat.lt_of_le_of_lt above small)]
  exact Nat.not_lt.mpr above

theorem toNat_lt_limit (c : Char) : c.toNat < 0x110000 := by
  have valid : c.toNat.isValidChar := c.valid
  unfold Nat.isValidChar at valid
  omega

/-- The reader takes the bytes of one character, whatever follows them. -/
theorem decodeOnto_encodeChar (done : List Char) (c : Char) (rest : Bytes) :
    decodeOnto done (encodeChar c ++ rest) = decodeOnto (c :: done) rest := by
  have limit := toNat_lt_limit c
  have scalar : ∀ least, least ≤ c.toNat → scalar? least c.toNat = some c :=
    fun _ enough => scalar?_toNat enough
  unfold encodeChar
  by_cases one : c.toNat < 0x80
  · have first : UInt8.ofNat c.toNat < 0x80 := ofNat_lt 0x80 (by decide) one
    have value : (UInt8.ofNat c.toNat).toNat = c.toNat := by
      rw [UInt8.toNat_ofNat']
      omega
    simp only [one, ↓reduceIte, List.cons_append, List.nil_append]
    rw [decodeOnto.eq_def]
    simp only [first, ↓reduceIte, value, Char.ofNat_toNat]
  by_cases two : c.toNat < 0x800
  · have first : ¬ UInt8.ofNat (0xC0 + c.toNat / 0x40) < 0x80 :=
      not_ofNat_lt 0x80 (by omega) (by omega)
    have second : ¬ UInt8.ofNat (0xC0 + c.toNat / 0x40) < 0xC0 :=
      not_ofNat_lt 0xC0 (by omega) (by omega)
    have third : UInt8.ofNat (0xC0 + c.toNat / 0x40) < 0xE0 :=
      ofNat_lt 0xE0 (by decide) (by omega)
    have code : ((UInt8.ofNat (0xC0 + c.toNat / 0x40)).toNat - 0xC0) * 0x40 + c.toNat % 0x40 =
        c.toNat := by
      rw [UInt8.toNat_ofNat']
      omega
    simp only [one, two, ↓reduceIte, List.cons_append, List.nil_append, decodeOnto, first, second,
      third, continuation?_ofNat (Nat.mod_lt c.toNat (by decide : 0x40 > 0)), code,
      scalar 0x80 (by omega)]
  by_cases three : c.toNat < 0x10000
  · have first : ¬ UInt8.ofNat (0xE0 + c.toNat / 0x1000) < 0x80 :=
      not_ofNat_lt 0x80 (by omega) (by omega)
    have second : ¬ UInt8.ofNat (0xE0 + c.toNat / 0x1000) < 0xC0 :=
      not_ofNat_lt 0xC0 (by omega) (by omega)
    have third : ¬ UInt8.ofNat (0xE0 + c.toNat / 0x1000) < 0xE0 :=
      not_ofNat_lt 0xE0 (by omega) (by omega)
    have fourth : UInt8.ofNat (0xE0 + c.toNat / 0x1000) < 0xF0 :=
      ofNat_lt 0xF0 (by decide) (by omega)
    have code : (((UInt8.ofNat (0xE0 + c.toNat / 0x1000)).toNat - 0xE0) * 0x40 +
        c.toNat / 0x40 % 0x40) * 0x40 + c.toNat % 0x40 = c.toNat := by
      rw [UInt8.toNat_ofNat']
      omega
    simp only [one, two, three, ↓reduceIte, List.cons_append, List.nil_append, decodeOnto, first,
      second, third, fourth, continuation?_ofNat (Nat.mod_lt c.toNat (by decide : 0x40 > 0)),
      continuation?_ofNat (Nat.mod_lt (c.toNat / 0x40) (by decide : 0x40 > 0)), code,
      scalar 0x800 (by omega)]
  · have first : ¬ UInt8.ofNat (0xF0 + c.toNat / 0x40000) < 0x80 :=
      not_ofNat_lt 0x80 (by omega) (by omega)
    have second : ¬ UInt8.ofNat (0xF0 + c.toNat / 0x40000) < 0xC0 :=
      not_ofNat_lt 0xC0 (by omega) (by omega)
    have third : ¬ UInt8.ofNat (0xF0 + c.toNat / 0x40000) < 0xE0 :=
      not_ofNat_lt 0xE0 (by omega) (by omega)
    have fourth : ¬ UInt8.ofNat (0xF0 + c.toNat / 0x40000) < 0xF0 :=
      not_ofNat_lt 0xF0 (by omega) (by omega)
    have code : ((((UInt8.ofNat (0xF0 + c.toNat / 0x40000)).toNat - 0xF0) * 0x40 +
        c.toNat / 0x1000 % 0x40) * 0x40 + c.toNat / 0x40 % 0x40) * 0x40 + c.toNat % 0x40 =
        c.toNat := by
      rw [UInt8.toNat_ofNat']
      omega
    simp only [one, two, three, ↓reduceIte, List.cons_append, List.nil_append, decodeOnto, first,
      second, third, fourth, continuation?_ofNat (Nat.mod_lt c.toNat (by decide : 0x40 > 0)),
      continuation?_ofNat (Nat.mod_lt (c.toNat / 0x40) (by decide : 0x40 > 0)),
      continuation?_ofNat (Nat.mod_lt (c.toNat / 0x1000) (by decide : 0x40 > 0)), code,
      scalar 0x10000 (by omega)]

theorem decodeOnto_encode (done text : List Char) (rest : Bytes) :
    decodeOnto done (encode text ++ rest) = decodeOnto (text.reverse ++ done) rest := by
  induction text generalizing done with
  | nil => rfl
  | cons c text ih =>
      rw [encode, List.flatMap_cons, List.append_assoc, decodeOnto_encodeChar]
      exact (ih (c :: done)).trans (by simp)

theorem decode?_encode (text : List Char) : decode? (encode text) = some text := by
  have read := decodeOnto_encode [] text []
  simpa [decode?, decodeOnto] using read

@[simp] theorem toString?_encode (text : List Char) :
    toString? (encode text) = some (String.ofList text) := by
  rw [toString?, decode?_encode, Option.map_some]

theorem toString?_ofString (text : String) : toString? (ofString text) = some text := by
  rw [ofString, toString?_encode, String.ofList_toList]

theorem encode_append (left right : List Char) :
    encode (left ++ right) = encode left ++ encode right :=
  List.flatMap_append

/-- ASCII characters are their bytes. -/
theorem encode_of_ascii (ascii : ∀ c ∈ text, c.toNat < 0x80) :
    encode text = text.map fun c => UInt8.ofNat c.toNat := by
  rw [encode, List.map_eq_flatMap]
  refine List.flatMap_congr fun c member => ?_
  rw [encodeChar]
  exact if_pos (ascii c member)

/-- A byte of a character is the whole of an ASCII character or lies outside of ASCII. -/
theorem encodeChar_ascii_or (member : byte ∈ encodeChar c) :
    (c.toNat < 0x80 ∧ encodeChar c = [byte] ∧ byte.toNat = c.toNat) ∨ 0x80 ≤ byte.toNat := by
  have limit := toNat_lt_limit c
  unfold encodeChar at member ⊢
  by_cases one : c.toNat < 0x80
  · simp only [one, ↓reduceIte, List.mem_singleton] at member ⊢
    subst member
    exact .inl ⟨trivial, rfl, by rw [UInt8.toNat_ofNat']; omega⟩
  · right
    simp only [one, ↓reduceIte] at member
    split at member
    · simp only [List.mem_cons, List.not_mem_nil, or_false] at member
      rcases member with rfl | rfl <;> rw [UInt8.toNat_ofNat'] <;> omega
    · split at member
      · simp only [List.mem_cons, List.not_mem_nil, or_false] at member
        rcases member with rfl | rfl | rfl <;> rw [UInt8.toNat_ofNat'] <;> omega
      · simp only [List.mem_cons, List.not_mem_nil, or_false] at member
        rcases member with rfl | rfl | rfl | rfl <;> rw [UInt8.toNat_ofNat'] <;> omega

end QueryJournal.Utf8
