import QueryJournal.Proofs.Toml.Text

namespace QueryJournal.Toml

open QueryJournal.Text

/-!
Reading a key undoes writing it. A key in front of a setting has one part, and a header has a part
for every table that leads to its own.
-/

variable {key rest : List Char} {name : String} {c stop : Char}

theorem simpleKey?_bare (written : key ≠ []) (bare : ∀ c ∈ key, isBare c = true)
    (other : isBare stop = false) :
    simpleKey? (key ++ stop :: rest) = some (String.ofList key, stop :: rest) := by
  have row := run_append bare other rest
  cases key with
  | nil => exact absurd rfl written
  | cons c key =>
      have first := bare c (by simp)
      have quote : c ≠ '"' := fun same => absurd (same ▸ first) (by decide)
      have apostrophe : c ≠ '\'' := fun same => absurd (same ▸ first) (by decide)
      rw [List.cons_append] at row ⊢
      simp only [simpleKey?, beq_iff_eq, quote, apostrophe, ↓reduceIte, row, List.isEmpty_cons,
        Bool.false_eq_true]

theorem simpleKey?_basicLine (key rest : List Char) :
    simpleKey? (basicLine key ++ rest) = some (String.ofList key, rest) := by
  have read := line?_basicLine key rest
  simp only [basicLine, List.append_assoc, List.cons_append, List.nil_append] at read ⊢
  simp only [simpleKey?, beq_self_eq_true, ↓reduceIte, read, Option.map_some]

theorem simpleKey?_literalLine (plain : ∀ c ∈ key, isPlain c = true) (free : '\'' ∉ key)
    (rest : List Char) :
    simpleKey? (literalLine key ++ rest) = some (String.ofList key, rest) := by
  have read := line?_literalLine plain free rest
  simp only [literalLine, List.append_assoc, List.cons_append, List.nil_append] at read ⊢
  simp [simpleKey?, read]

theorem simpleKey?_writtenKey (key rest : List Char) (other : isBare stop = false) :
    simpleKey? (writtenKey key ++ stop :: rest) = some (String.ofList key, stop :: rest) := by
  simp only [writtenKey]
  split
  case _ bare =>
    simp only [Bool.and_eq_true, Bool.not_eq_true', List.isEmpty_eq_false_iff,
      List.all_eq_true] at bare
    exact simpleKey?_bare bare.1 bare.2 other
  · split
    · exact simpleKey?_basicLine _ _
    · split
      case _ literal =>
        simp only [Bool.and_eq_true, Bool.not_eq_true', List.contains_eq_mem,
          decide_eq_false_iff_not] at literal
        obtain ⟨⟨plain, oneLine⟩, free⟩ := literal
        exact simpleKey?_literalLine (isPlain_of_oneLine plain oneLine) free _
      · exact simpleKey?_basicLine _ _

theorem head_writtenKey (key : List Char) :
    ∃ c more, writtenKey key = c :: more ∧ (isBare c = true ∨ c = '"' ∨ c = '\'') := by
  simp only [writtenKey]
  split
  case _ bare =>
    simp only [Bool.and_eq_true, Bool.not_eq_true', List.isEmpty_eq_false_iff,
      List.all_eq_true] at bare
    cases key with
    | nil => exact absurd rfl bare.1
    | cons c key => exact ⟨c, key, rfl, .inl (bare.2 c List.mem_cons_self)⟩
  · split
    · exact ⟨'"', _, rfl, .inr (.inl rfl)⟩
    · split
      · exact ⟨'\'', _, rfl, .inr (.inr rfl)⟩
      · exact ⟨'"', _, rfl, .inr (.inl rfl)⟩

/-- No key looks like a blank, a comment, the end of a line or a header. -/
theorem start_writtenKey (key : List Char) :
    ∃ c more, writtenKey key = c :: more ∧ c ∉ [' ', '\t', '#', '\n', '\r', '['] := by
  obtain ⟨c, more, written, first⟩ := head_writtenKey key
  refine ⟨c, more, written, fun member => ?_⟩
  simp only [List.mem_cons, List.not_mem_nil, or_false] at member
  rcases member with rfl | rfl | rfl | rfl | rfl | rfl <;> exact absurd first (by decide)

theorem spacedKey?_writtenKey (name : String) (rest : List Char) (other : isBare stop = false) :
    spacedKey? (writtenKey name.toList ++ stop :: rest) =
      some (name, (stop :: rest).dropWhile isSpace) := by
  have read := simpleKey?_writtenKey name.toList rest other
  obtain ⟨c, more, written, other⟩ := start_writtenKey name.toList
  simp only [List.mem_cons, List.not_mem_nil, or_false, not_or] at other
  have start : (writtenKey name.toList ++ stop :: rest).dropWhile isSpace =
      writtenKey name.toList ++ stop :: rest := by
    rw [written, List.cons_append,
      List.dropWhile_cons_of_neg (by simp [isSpace, other.1, other.2.1])]
  rw [spacedKey?, start, read, Option.map_some, String.ofList_toList]

/-- The written form of the parts of a key after the first one. -/
def pointedKeys (names : List String) : List Char :=
  names.flatMap fun name => '.' :: writtenKey name.toList

theorem pointedKeys_start (names : List String) (rest : List Char) :
    ∃ stop more, pointedKeys names ++ ']' :: rest = stop :: more ∧
      isBare stop = false ∧ isSpace stop = false := by
  cases names with
  | nil => exact ⟨']', rest, rfl, rfl, rfl⟩
  | cons name names => exact ⟨'.', _, rfl, rfl, rfl⟩

theorem many_pointedKey? (names : List String) (rest : List Char) :
    many pointedKey? (pointedKeys names ++ ']' :: rest) = (names, ']' :: rest) := by
  induction names with
  | nil => exact many_of_none rfl
  | cons name names ih =>
      obtain ⟨stop, more, following, bare, space⟩ := pointedKeys_start names rest
      have read : pointedKey? (pointedKeys (name :: names) ++ ']' :: rest) =
          some (name, pointedKeys names ++ ']' :: rest) := by
        rw [pointedKeys, List.flatMap_cons, ← pointedKeys, List.append_assoc, List.cons_append,
          pointedKey?, skip?_cons, Option.bind_some, following,
          spacedKey?_writtenKey name more bare, List.dropWhile_cons_of_neg (by simp [space])]
      have shorter : (pointedKeys names ++ ']' :: rest).length <
          (pointedKeys (name :: names) ++ ']' :: rest).length := by
        simp [pointedKeys]
      rw [many_of_some read shorter, ih]

theorem intercalate_writtenKey (first : String) (others : List String) :
    ['.'].intercalate ((first :: others).map fun name => writtenKey name.toList) =
      writtenKey first.toList ++ pointedKeys others := by
  induction others generalizing first with
  | nil => simp [pointedKeys]
  | cons second others ih =>
      have later := ih second
      simp only [List.map_cons] at later ⊢
      rw [List.intercalate_cons_cons, later]
      simp [pointedKeys]

/-- The path in a header is read as it was written, unless it has too many parts. -/
theorem key?_path {path : List String} (name : String) (short : path.length + 1 < nestingLimit)
    (rest : List Char) :
    key? (['.'].intercalate ((path ++ [name]).map fun name => writtenKey name.toList) ++
        ']' :: rest) =
      some ((path, name), ']' :: rest) := by
  obtain ⟨first, others, parts⟩ := List.exists_cons_of_ne_nil
    (List.append_ne_nil_of_right_ne_nil path (List.cons_ne_nil name []))
  obtain ⟨stop, more, following, bare, space⟩ := pointedKeys_start others rest
  have size : others.length = path.length := by
    have := congrArg List.length parts
    simpa using this.symm
  have last : (path ++ [name]).getLastD first = name := by simp
  rw [parts, intercalate_writtenKey, List.append_assoc, key?, following,
    spacedKey?_writtenKey first more bare, List.dropWhile_cons_of_neg (by simp [space]),
    ← following]
  simp only [Option.bind_eq_bind, Option.bind_some, many_pointedKey?, size, short, ↓reduceIte,
    ← parts, List.dropLast_concat, last, Option.pure_def]

/-- The key of a setting is read as one part. -/
theorem key?_setting (name : String) (rest : List Char) :
    key? (writtenKey name.toList ++ ' ' :: '=' :: rest) = some (([], name), '=' :: rest) := by
  have alone : many pointedKey? ('=' :: rest) = ([], '=' :: rest) := many_of_none rfl
  have read := spacedKey?_writtenKey name ('=' :: rest) (by decide : isBare ' ' = false)
  have space : (' ' :: '=' :: rest).dropWhile isSpace = '=' :: rest := rfl
  simp only [key?, read, space, Option.bind_eq_bind, Option.bind_some, alone]
  rfl

end QueryJournal.Toml
