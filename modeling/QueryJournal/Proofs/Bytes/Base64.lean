import QueryJournal.Bytes.Base64

namespace QueryJournal.Base64

open QueryJournal.Utf8 (Bytes)

/-!
Decoding undoes encoding. Three bytes are four digits whatever follows them, so the groups are
taken one by one and only the last group can be padded.
-/

theorem value?_digit : ∀ value < 64, value? (digit value) = some value := by
  decide

theorem digit_ne_padding : ∀ value < 64, digit value ≠ '=' := by
  decide

theorem encodeOnto_eq_append (done : List Char) :
    ∀ bytes : Bytes, encodeOnto done bytes = done.reverse ++ encodeOnto [] bytes
  | [] => by simp [encodeOnto]
  | [_] => by simp [encodeOnto]
  | [_, _] => by simp [encodeOnto]
  | a :: b :: c :: rest => by
      rw [encodeOnto, encodeOnto, encodeOnto_eq_append _ rest,
        encodeOnto_eq_append [_, _, _, _] rest]
      simp

theorem decodeOnto_digits {p q r s bits : Nat} (done : Bytes) (rest : List Char) (first : p < 64)
    (second : q < 64) (third : r < 64) (fourth : s < 64)
    (whole : ((p * 64 + q) * 64 + r) * 64 + s = bits) :
    decodeOnto done (digit p :: digit q :: digit r :: digit s :: rest) =
      decodeOnto
        (UInt8.ofNat (bits % 256) :: UInt8.ofNat (bits / 256 % 256) ::
          UInt8.ofNat (bits / 65536) :: done) rest := by
  rw [decodeOnto]
  · simp only [value?_digit p first, value?_digit q second, value?_digit r third,
      value?_digit s fourth, whole, bind, Option.bind]
  · intro _ padding
    exact absurd padding (digit_ne_padding s fourth)
  · intro padding
    exact absurd padding (digit_ne_padding s fourth)

theorem decodeOnto_padded {p q r bits : Nat} (done : Bytes) (first : p < 64) (second : q < 64)
    (third : r < 64) (whole : (p * 64 + q) * 64 + r = bits * 4) :
    decodeOnto done [digit p, digit q, digit r, '='] =
      some (done.reverse ++ [UInt8.ofNat (bits / 256), UInt8.ofNat (bits % 256)]) := by
  have low : bits * 4 / 4 % 256 = bits % 256 := by omega
  have high : bits * 4 / 1024 = bits / 256 := by omega
  rw [decodeOnto]
  · simp only [value?_digit p first, value?_digit q second, value?_digit r third, whole, low, high,
      bind, Option.bind]
    simp
  · exact digit_ne_padding r third

private theorem ofNat_eq {number : Nat} {byte : UInt8} (same : number = byte.toNat) :
    UInt8.ofNat number = byte := by
  rw [same, UInt8.ofNat_toNat]

theorem decodeOnto_encodeOnto (done : Bytes) :
    ∀ bytes : Bytes, decodeOnto done (encodeOnto [] bytes) = some (done.reverse ++ bytes)
  | [] => by simp [encodeOnto, decodeOnto]
  | [a] => by
      have bounded := a.toNat_lt
      have first := value?_digit (a.toNat * 0x10000 / 0x40000) (by omega)
      have second := value?_digit (a.toNat * 0x10000 / 0x1000 % 64) (by omega)
      have whole : (a.toNat * 0x10000 / 0x40000 * 64 + a.toNat * 0x10000 / 0x1000 % 64) =
          a.toNat * 16 := by omega
      simp only [encodeOnto, List.reverse_nil, List.nil_append, decodeOnto, first, second, whole,
        bind, Option.bind]
      simp
  | [a, b] => by
      have boundedA := a.toNat_lt
      have boundedB := b.toNat_lt
      let bits := a.toNat * 0x10000 + b.toNat * 0x100
      have whole : (bits / 0x40000 * 64 + bits / 0x1000 % 64) * 64 + bits / 0x40 % 64 =
          (a.toNat * 256 + b.toNat) * 4 := by omega
      have high : UInt8.ofNat ((a.toNat * 256 + b.toNat) / 256) = a := ofNat_eq (by omega)
      have low : UInt8.ofNat ((a.toNat * 256 + b.toNat) % 256) = b := ofNat_eq (by omega)
      rw [encodeOnto, List.reverse_nil, List.nil_append]
      refine (decodeOnto_padded done (by omega) (by omega) (by omega) whole).trans ?_
      rw [high, low]
  | a :: b :: c :: rest => by
      have boundedA := a.toNat_lt
      have boundedB := b.toNat_lt
      have boundedC := c.toNat_lt
      let bits := a.toNat * 0x10000 + b.toNat * 0x100 + c.toNat
      have whole : ((bits / 0x40000 * 64 + bits / 0x1000 % 64) * 64 + bits / 0x40 % 64) * 64 +
          bits % 64 = bits := by omega
      have low : UInt8.ofNat (bits % 256) = c := ofNat_eq (by omega)
      have middle : UInt8.ofNat (bits / 256 % 256) = b := ofNat_eq (by omega)
      have high : UInt8.ofNat (bits / 65536) = a := ofNat_eq (by omega)
      rw [encodeOnto, encodeOnto_eq_append]
      simp only [List.reverse_cons, List.reverse_nil, List.nil_append, List.cons_append]
      refine (decodeOnto_digits done _ (by omega) (by omega) (by omega) (by omega) whole).trans ?_
      rw [low, middle, high, decodeOnto_encodeOnto]
      simp

theorem decode?_encode (bytes : Bytes) : decode? (encode bytes) = some bytes := by
  rw [decode?, encode, String.toList_ofList, decodeOnto_encodeOnto]
  rfl

end QueryJournal.Base64
