import QueryJournal.Proofs.Text.Utf8

namespace QueryJournal.Utf8

/-!
Where characters begin. The first byte of a character never continues one, and no other byte of it
begins one, so bytes that encode a text are found in the bytes of another text only where the
characters are.
-/

variable {part text : List Char} {before after bytes rest : Bytes} {byte : UInt8}

/-- A byte that continues a character that other bytes began. -/
def Continues (byte : UInt8) : Prop :=
  0x80 ≤ byte.toNat ∧ byte.toNat < 0xC0

private theorem continues_ofNat {bits : Nat} (small : bits < 0x40) :
    Continues (UInt8.ofNat (0x80 + bits)) := by
  have value : (UInt8.ofNat (0x80 + bits)).toNat = 0x80 + bits := by
    rw [UInt8.toNat_ofNat']
    omega
  rw [Continues, value]
  omega

private theorem not_continues_ofNat {number : Nat} (small : number < 0x100)
    (outside : number < 0x80 ∨ 0xC0 ≤ number) : ¬Continues (UInt8.ofNat number) := by
  rw [Continues, UInt8.toNat_ofNat', Nat.mod_eq_of_lt small]
  omega

theorem encodeChar_continues (c : Char) :
    ∃ first tail, encodeChar c = first :: tail ∧ ¬Continues first ∧
      ∀ byte ∈ tail, Continues byte := by
  have limit := toNat_lt_limit c
  have low : Continues (UInt8.ofNat (0x80 + c.toNat % 0x40)) :=
    continues_ofNat (Nat.mod_lt _ (by decide))
  have middle : Continues (UInt8.ofNat (0x80 + c.toNat / 0x40 % 0x40)) :=
    continues_ofNat (Nat.mod_lt _ (by decide))
  have high : Continues (UInt8.ofNat (0x80 + c.toNat / 0x1000 % 0x40)) :=
    continues_ofNat (Nat.mod_lt _ (by decide))
  simp only [encodeChar]
  split
  · exact ⟨_, _, rfl, not_continues_ofNat (by omega) (by omega), List.forall_mem_nil _⟩
  split
  · exact ⟨_, _, rfl, not_continues_ofNat (by omega) (by omega), List.forall_mem_singleton.mpr low⟩
  split
  · refine ⟨_, _, rfl, not_continues_ofNat (by omega) (by omega), ?_⟩
    exact List.forall_mem_cons.mpr ⟨middle, List.forall_mem_singleton.mpr low⟩
  · refine ⟨_, _, rfl, not_continues_ofNat (by omega) (by omega), ?_⟩
    exact List.forall_mem_cons.mpr
      ⟨high, List.forall_mem_cons.mpr ⟨middle, List.forall_mem_singleton.mpr low⟩⟩

/-- Bytes that begin a character. -/
theorem encode_starts (some : part ≠ []) :
    ∃ first tail, encode part = first :: tail ∧ ¬Continues first := by
  cases part with
  | nil => contradiction
  | cons c part =>
      obtain ⟨first, tail, bytes, starts, _⟩ := encodeChar_continues c
      exact ⟨first, tail ++ encode part, by rw [encode, List.flatMap_cons, bytes]; rfl, starts⟩

/-- A cut in front of a byte that continues nothing is a cut between characters. -/
theorem encode_cut (cut : encode text = before ++ byte :: rest) (starts : ¬Continues byte) :
    ∃ front back, text = front ++ back ∧ encode front = before ∧ encode back = byte :: rest := by
  induction text generalizing before with
  | nil => simp [encode] at cut
  | cons c text ih =>
      have bytes : encodeChar c ++ encode text = before ++ byte :: rest := cut
      rcases List.append_eq_append_iff.mp bytes with
        ⟨later, beyond, remains⟩ | ⟨inside, taken, remains⟩
      · obtain ⟨front, back, text, front_bytes, back_bytes⟩ := ih remains
        refine ⟨c :: front, back, by rw [text]; rfl, ?_, back_bytes⟩
        rw [beyond, ← front_bytes]
        rfl
      · -- The cut is in front of this character, since behind its first byte it goes on.
        obtain ⟨first, tail, shape, _, continues⟩ := encodeChar_continues c
        cases before with
        | nil => exact ⟨[], c :: text, rfl, rfl, bytes⟩
        | cons head before =>
            cases inside with
            | nil =>
                rw [List.append_nil] at taken
                refine ⟨[c], text, rfl, ?_, remains.symm⟩
                rw [← taken]
                exact List.flatMap_singleton _ _
            | cons other inside =>
                rw [List.cons_append, List.cons.injEq] at remains
                rw [shape, List.cons_append, List.cons.injEq] at taken
                refine absurd (continues byte ?_) starts
                rw [taken.2, remains.1]
                simp

/-- What was read before goes before everything that is read afterwards. -/
theorem decodeOnto_prefix {done : List Char} (read : decodeOnto done bytes = some text) :
    done.reverse <+: text := by
  have earlier {done : List Char} {c : Char} (longer : (c :: done).reverse <+: text) :
      done.reverse <+: text := by
    rw [List.reverse_cons] at longer
    exact (List.prefix_append _ _).trans longer
  fun_induction decodeOnto done bytes
  case case1 => rw [Option.some.inj read]
  all_goals first
    | contradiction
    | rename_i ih
      exact earlier (ih read)

/-- Bytes of a text that begin as another text does come from a text that begins so. -/
theorem encode_prefix (begins : encode text = encode part ++ rest) :
    ∃ back, text = part ++ back ∧ encode back = rest := by
  have read : decodeOnto part.reverse rest = some text := by
    have whole := decodeOnto_encode [] part rest
    rw [← begins, List.append_nil] at whole
    exact whole ▸ decode?_encode text
  obtain ⟨back, whole⟩ := decodeOnto_prefix read
  rw [List.reverse_reverse] at whole
  rw [← whole, encode_append, List.append_cancel_left_eq] at begins
  exact ⟨back, whole.symm, begins⟩

/-- The bytes of some characters stand among those of a text only where these characters are. -/
theorem encode_window (some : part ≠ []) (bytes : encode text = before ++ encode part ++ after) :
    ∃ front back, text = front ++ part ++ back ∧ encode front = before ∧ encode back = after := by
  obtain ⟨first, tail, shape, starts⟩ := encode_starts some
  have cut : encode text = before ++ first :: (tail ++ after) := by
    rw [bytes, shape, List.append_assoc]
    rfl
  obtain ⟨front, remains, text, front_bytes, begins⟩ := encode_cut cut starts
  rw [← List.cons_append, ← shape] at begins
  obtain ⟨back, remains, back_bytes⟩ := encode_prefix begins
  exact ⟨front, back, by rw [text, remains, List.append_assoc], front_bytes, back_bytes⟩

end QueryJournal.Utf8
