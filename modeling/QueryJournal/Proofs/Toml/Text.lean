import QueryJournal.Proofs.Text.Numeral
import QueryJournal.Proofs.Text.Scan
import QueryJournal.Toml.Text

namespace QueryJournal.Toml

open QueryJournal.Text

/-!
Reading a string undoes writing it, whichever style it was written in. In a block a text
is taken apart at the characters that are no marks: up to two marks stand in front of each of them,
and up to two at the end, where they run into the marks that end the block.
-/

variable {kind : Kind} {text form rest : List Char} {c stop : Char}

/-!
### Escapes
-/

theorem upper_digitChar : ∀ digit < 16,
    (Numeral.digitIn? 16 (Numeral.digitChar digit).toUpper).isSome = true ∧
      Numeral.digitValue? (Numeral.digitChar digit).toUpper =
        Numeral.digitValue? (Numeral.digitChar digit) := by
  decide

theorem value_upper (digits : ∀ c ∈ text, ∃ digit < 16, c = Numeral.digitChar digit) :
    Numeral.value 16 (text.map Char.toUpper) = Numeral.value 16 text := by
  induction text using List.reverseRecOn with
  | nil => rfl
  | append_singleton text c ih =>
      obtain ⟨digit, small, rfl⟩ := digits c (by simp)
      rw [List.map_append, List.map_singleton, Numeral.value_concat, Numeral.value_concat,
        (upper_digitChar digit small).2, ih fun c member => digits c (by simp [member])]

theorem codePoint?_padded (small : c.toNat < 16 ^ 4) (rest : List Char) :
    codePoint? 4 ((Numeral.padded 4 16 c.toNat).map Char.toUpper ++ rest) = some (c, rest) := by
  have digits : ∀ d ∈ Numeral.padded 4 16 c.toNat, ∃ digit < 16, d = Numeral.digitChar digit :=
    fun _ => Numeral.mem_padded (by decide)
  have size : ((Numeral.padded 4 16 c.toNat).map Char.toUpper).length = 4 := by
    rw [List.length_map, Numeral.padded_length (by decide) (by decide) small]
  have inside : ∀ d ∈ (Numeral.padded 4 16 c.toNat).map Char.toUpper,
      (Numeral.digitIn? 16 d).isSome = true := by
    intro d member
    obtain ⟨plain, among, rfl⟩ := List.mem_map.mp member
    obtain ⟨digit, bounded, rfl⟩ := digits plain among
    exact (upper_digitChar digit bounded).1
  have code : Numeral.value 16 ((Numeral.padded 4 16 c.toNat).map Char.toUpper) = c.toNat := by
    rw [value_upper digits, Numeral.value_padded (by decide) (by decide)]
  have valid : c.toNat.isValidChar := c.valid
  simp only [codePoint?, exactly?_append size inside, Option.bind_eq_bind, Option.bind_some, code,
    if_pos valid, Char.ofNat_toNat, Option.pure_def]

/-- A written form that starts with a backslash and stands for one character. -/
def Escapes (form : List Char) (c : Char) : Prop :=
  ∃ letter more, form = '\\' :: letter :: more ∧ isSpace letter = false ∧
    (letter ≠ '\n' ∧ letter ≠ '\r') ∧ ∀ rest, escape? (letter :: more ++ rest) = some (c, rest)

theorem escapes_quote : Escapes ['\\', '"'] '"' :=
  ⟨'"', [], rfl, rfl, by decide, fun _ => rfl⟩

/-- A character is written as it is or escaped. -/
theorem escapedChar_cases (inBlock : Bool) (c : Char) :
    Escapes (escapedChar inBlock c) c ∨
      escapedChar inBlock c = [c] ∧ c ≠ '\\' ∧ (isPlain c = true ∨ inBlock = true ∧ c = '\n') := by
  by_cases named : c ∈ ['\x08', '\t', '\n', '\x0C', '\r', '\\']
  · simp only [List.mem_cons, List.not_mem_nil, or_false] at named
    rcases named with rfl | rfl | rfl | rfl | rfl | rfl
    · exact .inl ⟨'b', [], rfl, rfl, by decide, fun _ => rfl⟩
    · exact .inl ⟨'t', [], rfl, rfl, by decide, fun _ => rfl⟩
    · cases inBlock with
      | true => exact .inr ⟨rfl, by decide, .inr ⟨rfl, rfl⟩⟩
      | false => exact .inl ⟨'n', [], rfl, rfl, by decide, fun _ => rfl⟩
    · exact .inl ⟨'f', [], rfl, rfl, by decide, fun _ => rfl⟩
    · exact .inl ⟨'r', [], rfl, rfl, by decide, fun _ => rfl⟩
    · exact .inl ⟨'\\', [], rfl, rfl, by decide, fun _ => rfl⟩
  · simp only [List.mem_cons, List.not_mem_nil, or_false, not_or] at named
    obtain ⟨backspace, tab, lineEnd, feed, carriage, slash⟩ := named
    simp only [escapedChar, beq_iff_eq, backspace, tab, lineEnd, feed, carriage, slash, ↓reduceIte]
    by_cases plain : isPlain c = true
    · rw [if_pos plain]
      exact .inr ⟨rfl, slash, .inl plain⟩
    · have small : c.toNat < 16 ^ 4 := by
        simp only [isPlain, Bool.or_eq_true, Bool.and_eq_true, decide_eq_true_eq, bne_iff_ne,
          beq_iff_eq] at plain
        omega
      rw [if_neg plain]
      exact .inl ⟨'u', _, rfl, rfl, by decide, fun rest => codePoint?_padded small rest⟩

theorem needsEscapes_eq_false (shown : needsEscapes text = false) :
    ∀ c ∈ text, isPlain c = true ∨ c = '\n' := by
  simpa [needsEscapes, or_iff_not_imp_left] using shown

theorem isPlain_of_oneLine (shown : needsEscapes text = false) (oneLine : '\n' ∉ text) :
    ∀ c ∈ text, isPlain c = true := by
  intro c member
  rcases needsEscapes_eq_false shown c member with plain | rfl
  · exact plain
  · exact absurd member oneLine

theorem skipLineEnd?_of_ne (lineEnd : c ≠ '\n') (carriage : c ≠ '\r') :
    skipLineEnd? (c :: rest) = none := by
  unfold skipLineEnd?
  split
  · exact absurd (List.cons.inj ‹_›).1 lineEnd
  · exact absurd (List.cons.inj ‹_›).1 carriage
  · rfl

theorem isPlain_ne (plain : isPlain c = true) : c ≠ '\n' ∧ c ≠ '\r' := by
  constructor
  · rintro rfl
    exact absurd plain (by decide)
  · rintro rfl
    exact absurd plain (by decide)

/-!
### Strings on one line
-/

/-- A character that is no backslash where there are escapes starts none. -/
theorem startsEscape_of_ne (slash : kind.hasEscapes = true → c ≠ '\\') :
    (kind.hasEscapes && c == '\\') = false := by
  cases escapes : kind.hasEscapes with
  | false => rfl
  | true => simpa using slash escapes

theorem linePiece?_plain (plain : isPlain c = true) (mark : c ≠ kind.mark)
    (slash : kind.hasEscapes = true → c ≠ '\\') (rest : List Char) :
    linePiece? kind (c :: rest) = some ([c], rest) := by
  simp only [linePiece?, beq_iff_eq, mark, startsEscape_of_ne slash, plain, ↓reduceIte,
    Bool.false_eq_true]

theorem linePiece?_escapes (escapes : Escapes form c) (rest : List Char) :
    linePiece? .basic (form ++ rest) = some ([c], rest) := by
  obtain ⟨letter, more, rfl, _, _, read⟩ := escapes
  have mark : '\\' ≠ Kind.basic.mark := by decide
  have escape : (Kind.basic.hasEscapes && '\\' == '\\') = true := rfl
  simp only [List.cons_append] at read ⊢
  simp only [linePiece?, beq_iff_eq, mark, escape, ↓reduceIte, read, Option.map_some]

theorem linePiece?_mark (kind : Kind) (rest : List Char) :
    linePiece? kind (kind.mark :: rest) = none := by
  rw [linePiece?, if_pos (beq_self_eq_true kind.mark)]

theorem line?_of_spells (spells : Spells (linePiece? kind) form text (kind.mark :: rest)) :
    line? kind (kind.mark :: (form ++ kind.mark :: rest)) = some (text, rest) := by
  obtain ⟨pieces, found, joined⟩ := spells
  simp only [line?, skip?_cons, Option.bind_eq_bind, Option.bind_some, found, joined,
    Option.pure_def]

theorem spells_escaped (text rest : List Char) :
    Spells (linePiece? .basic) (escaped false 0 text) text ('"' :: rest) := by
  induction text with
  | nil => exact .nil (linePiece?_mark .basic rest)
  | cons c text ih =>
      by_cases quote : c = '"'
      · subst quote
        exact .char (linePiece?_escapes escapes_quote _) (List.cons_ne_nil _ _) ih
      · have next : escaped false 0 (c :: text) = escapedChar false c ++ escaped false 0 text := by
          rw [escaped, if_neg (by simpa using quote)]
        rw [next]
        rcases escapedChar_cases false c with escapes | ⟨same, slash, plain⟩
        · refine .char (linePiece?_escapes escapes _) ?_ ih
          obtain ⟨letter, more, written, _⟩ := escapes
          rw [written]
          exact List.cons_ne_nil _ _
        · rw [same]
          have shown : isPlain c = true := by simpa using plain
          exact .char (linePiece?_plain shown quote (fun _ => slash) _) (List.cons_ne_nil _ _) ih

theorem line?_basicLine (text rest : List Char) :
    line? .basic (basicLine text ++ rest) = some (text, rest) := by
  simp only [basicLine, List.append_assoc, List.cons_append, List.nil_append]
  exact line?_of_spells (spells_escaped text rest)

theorem spells_literal (plain : ∀ c ∈ text, isPlain c = true) (mark : '\'' ∉ text)
    (rest : List Char) : Spells (linePiece? .literal) text text ('\'' :: rest) := by
  induction text with
  | nil => exact .nil (linePiece?_mark .literal rest)
  | cons c text ih =>
      simp only [List.mem_cons, not_or] at mark
      have slash : Kind.literal.hasEscapes = true → c ≠ '\\' := fun escapes =>
          Bool.noConfusion escapes
      have read : linePiece? .literal ([c] ++ (text ++ '\'' :: rest)) =
          some ([c], text ++ '\'' :: rest) :=
        linePiece?_plain (plain c (by simp)) (Ne.symm mark.1) slash _
      exact .char read (List.cons_ne_nil _ _) (ih (fun d member => plain d (by simp [member])) mark.2)

theorem line?_literalLine (plain : ∀ c ∈ text, isPlain c = true) (mark : '\'' ∉ text)
    (rest : List Char) : line? .literal (literalLine text ++ rest) = some (text, rest) := by
  simp only [literalLine, List.append_assoc, List.cons_append, List.nil_append]
  exact line?_of_spells (spells_literal plain mark rest)

/-!
### Strings in a block
-/

/-- The body of a block and the text it stands for. -/
inductive Body (kind : Kind) : List Char → List Char → Prop
  | marks {count : Nat} (few : count ≤ 2) :
      Body kind (List.replicate count kind.mark) (List.replicate count kind.mark)
  | piece {count : Nat} {start form text : List Char} {c : Char} (few : count ≤ 2)
      (written : start ≠ []) (mark : start.head? ≠ some kind.mark)
      (read : ∀ rest, blockPiece? kind (start ++ rest) = some ([c], rest))
      (body : Body kind form text) :
      Body kind (List.replicate count kind.mark ++ (start ++ form))
        (List.replicate count kind.mark ++ (c :: text))

/-- No mark is a line end. -/
def Kind.IsUsual (kind : Kind) : Prop :=
  kind.mark ≠ '\n' ∧ kind.mark ≠ '\r'

theorem run_marks (count : Nat) (other : rest.head? ≠ some kind.mark) :
    run (· == kind.mark) (List.replicate count kind.mark ++ rest) =
      (List.replicate count kind.mark, rest) := by
  cases rest with
  | nil =>
      rw [List.append_nil, run, List.takeWhile_replicate, List.dropWhile_replicate]
      simp
  | cons c rest =>
      apply run_append
      · intro d member
        simp [(List.mem_replicate.mp member).2]
      · simpa using other

theorem blockPiece?_marks (usual : kind.IsUsual) (count : Nat)
    (other : rest.head? ≠ some kind.mark) :
    blockPiece? kind (List.replicate (count + 1) kind.mark ++ rest) =
      if count + 1 ≤ 2 then some (List.replicate (count + 1) kind.mark, rest) else none := by
  have row := run_marks (count + 1) other
  rw [List.replicate_succ, List.cons_append] at row ⊢
  simp only [blockPiece?, skipLineEnd?_of_ne usual.1 usual.2, beq_self_eq_true, ↓reduceIte, row,
    List.length_cons, List.length_replicate]

/-- The pieces of a block end in front of at most two marks and the marks that end the block. -/
theorem Body.spells (usual : kind.IsUsual) (body : Body kind form text)
    (other : rest.head? ≠ some kind.mark) :
    ∃ count ≤ 2, ∃ front shown,
      form ++ fence kind ++ rest =
        front ++ (List.replicate (count + 3) kind.mark ++ rest) ∧
      text = shown ++ List.replicate count kind.mark ∧
      Spells (blockPiece? kind) front shown (List.replicate (count + 3) kind.mark ++ rest) := by
  induction body with
  | @marks count few =>
      -- The marks of the text and those of the fence make one row, too long for a piece.
      refine ⟨count, few, [], [], ?_, rfl, .nil ?_⟩
      · rw [List.nil_append, fence, List.replicate_append_replicate]
      · rw [blockPiece?_marks usual (count + 2) other, if_neg (by omega)]
  | @piece count start form text c few written mark read body ih =>
      obtain ⟨last, bounded, front, shown, split, rfl, spells⟩ := ih
      have inner : Spells (blockPiece? kind) (start ++ front) ([c] ++ shown)
          (List.replicate (last + 3) kind.mark ++ rest) := .cons (read _) written spells
      have whole : List.replicate count kind.mark ++ (start ++ form) ++ fence kind ++ rest =
          List.replicate count kind.mark ++ (start ++ front) ++
            (List.replicate (last + 3) kind.mark ++ rest) := by
        simp only [List.append_assoc] at split ⊢
        rw [split]
      refine ⟨last, bounded, List.replicate count kind.mark ++ (start ++ front),
        List.replicate count kind.mark ++ ([c] ++ shown), whole, by simp, ?_⟩
      cases count with
      | zero => exact inner
      | succ count =>
          refine .cons ?_ (by simp) inner
          have next : (start ++ front ++ (List.replicate (last + 3) kind.mark ++ rest)).head? ≠
              some kind.mark := by
            cases start with
            | nil => exact absurd rfl written
            | cons first more => simpa using mark
          rw [blockPiece?_marks usual count next, if_pos few]

theorem block?_of_body (usual : kind.IsUsual) (body : Body kind form text)
    (other : rest.head? ≠ some kind.mark) (start : List Char)
    (joined : (skipLineEnd? (start ++ form ++ fence kind ++ rest)).getD
      (start ++ form ++ fence kind ++ rest) = form ++ fence kind ++ rest) :
    block? kind (fence kind ++ start ++ form ++ fence kind ++ rest) = some (text, rest) := by
  obtain ⟨count, few, front, shown, split, rfl, pieces, found, flat⟩ := body.spells usual other
  have opened : strip? (fence kind) (fence kind ++ start ++ form ++ fence kind ++ rest) =
      some (start ++ form ++ fence kind ++ rest) := by
    simp only [List.append_assoc]
    exact strip?_append _ _
  have last : (List.replicate (count + 3) kind.mark).drop 3 = List.replicate count kind.mark := by
    rw [List.drop_replicate, Nat.add_sub_cancel]
  simp only [block?, opened, Option.bind_eq_bind, Option.bind_some, joined, split, found,
    run_marks (count + 3) other, List.length_replicate, last, flat]
  rw [if_pos (by omega), Option.pure_def]

theorem blockPiece?_plain (plain : isPlain c = true) (mark : c ≠ kind.mark)
    (slash : kind.hasEscapes = true → c ≠ '\\') (rest : List Char) :
    blockPiece? kind (c :: rest) = some ([c], rest) := by
  obtain ⟨lineEnd, carriage⟩ := isPlain_ne plain
  simp only [blockPiece?, skipLineEnd?_of_ne lineEnd carriage, beq_iff_eq, mark,
    startsEscape_of_ne slash, plain, ↓reduceIte, Bool.false_eq_true]

theorem blockPiece?_escapes (escapes : Escapes form c) (rest : List Char) :
    blockPiece? .basic (form ++ rest) = some ([c], rest) := by
  obtain ⟨letter, more, rfl, space, ⟨lineEnd, carriage⟩, read⟩ := escapes
  have line : skipLineEnd? ('\\' :: letter :: (more ++ rest)) = none :=
    skipLineEnd?_of_ne (by decide) (by decide)
  have joint : skipJoint? (letter :: (more ++ rest)) = none := by
    rw [skipJoint?, List.dropWhile_cons_of_neg (by simp [space]),
      skipLineEnd?_of_ne lineEnd carriage, Option.map_none]
  have mark : '\\' ≠ Kind.basic.mark := by decide
  have escape : (Kind.basic.hasEscapes && '\\' == '\\') = true := rfl
  simp only [List.cons_append] at read ⊢
  simp only [blockPiece?, line, beq_iff_eq, mark, escape, joint, ↓reduceIte, read, Option.map_some]

theorem body_escaped (text : List Char) {marks : Nat} (few : marks ≤ 2) :
    Body .basic (List.replicate marks '"' ++ escaped true marks text)
      (List.replicate marks '"' ++ text) := by
  induction text generalizing marks with
  | nil =>
      rw [escaped, List.append_nil]
      exact .marks few
  | cons c text ih =>
      by_cases quote : c = '"'
      · subst quote
        rw [escaped, if_pos (beq_self_eq_true '"')]
        by_cases more : marks < 2
        · have next := ih more
          rw [List.replicate_succ', List.append_assoc, List.append_assoc] at next
          simp only [↓reduceIte, more]
          exact next
        · simp only [↓reduceIte, more]
          exact .piece few (by decide) (by decide) (blockPiece?_escapes escapes_quote)
            (ih (Nat.zero_le 2))
      · rw [escaped, if_neg (by simpa using quote)]
        have body := ih (Nat.zero_le 2)
        rcases escapedChar_cases true c with escapes | ⟨same, slash, plain⟩
        · have read := blockPiece?_escapes escapes
          obtain ⟨letter, more, written, _⟩ := escapes
          rw [written] at read ⊢
          exact .piece few (List.cons_ne_nil _ _) (by simp [Kind.basic]) read body
        · rw [same]
          have first : [c].head? ≠ some Kind.basic.mark := fun same =>
            quote (Option.some.inj same)
          refine .piece few (List.cons_ne_nil _ _) first (fun rest => ?_) body
          rcases plain with plain | ⟨_, rfl⟩
          · exact blockPiece?_plain plain quote (fun _ => slash) rest
          · rfl

/-- How often a character stands in a row at most, after a part of which that is known, and how
often it stands in a row at the end. -/
def runs (mark : Char) (before : Nat × Nat) (text : List Char) : Nat × Nat :=
  text.foldl
    (fun (longest, current) c =>
      let current := if c == mark then current + 1 else 0
      (max longest current, current))
    before

theorem longestRun_eq (mark : Char) (text : List Char) :
    longestRun mark text = (runs mark (0, 0) text).1 :=
  rfl

theorem runs_cons (mark : Char) (longest current : Nat) (c : Char) (text : List Char) :
    runs mark (longest, current) (c :: text) =
      if c = mark then runs mark (max longest (current + 1), current + 1) text
      else runs mark (longest, 0) text := by
  by_cases same : c = mark <;> simp [runs, same]

theorem le_runs (mark : Char) (longest current : Nat) (text : List Char) :
    longest ≤ (runs mark (longest, current) text).1 := by
  induction text generalizing longest current with
  | nil => exact Nat.le_refl longest
  | cons c text ih =>
      rw [runs_cons]
      split
      · exact Nat.le_trans (Nat.le_max_left _ _) (ih _ _)
      · exact ih _ _

theorem not_mem_of_longestRun {mark : Char} (none : longestRun mark text = 0) : mark ∉ text := by
  rw [longestRun_eq] at none
  intro member
  obtain ⟨front, back, rfl⟩ := List.append_of_mem member
  rw [runs, List.foldl_append, ← runs, ← runs, ← Prod.mk.eta (p := runs mark (0, 0) front),
    runs_cons, if_pos rfl] at none
  have most := le_runs mark (max (runs mark (0, 0) front).1 ((runs mark (0, 0) front).2 + 1))
    ((runs mark (0, 0) front).2 + 1) back
  omega

theorem body_literal (text : List Char) {longest marks : Nat} (known : marks ≤ longest)
    (few : (runs '\'' (longest, marks) text).1 ≤ 2)
    (plain : ∀ c ∈ text, isPlain c = true ∨ c = '\n') :
    Body .literal (List.replicate marks '\'' ++ text) (List.replicate marks '\'' ++ text) := by
  have here : marks ≤ 2 := Nat.le_trans known (Nat.le_trans (le_runs _ _ _ _) few)
  induction text generalizing longest marks with
  | nil =>
      rw [List.append_nil]
      exact .marks here
  | cons c text ih =>
      have others : ∀ d ∈ text, isPlain d = true ∨ d = '\n' := fun d member =>
        plain d (by simp [member])
      rw [runs_cons] at few
      by_cases mark : c = '\''
      · subst mark
        rw [if_pos rfl] at few
        have next := le_runs '\'' (max longest (marks + 1)) (marks + 1) text
        have body := ih (Nat.le_max_right _ _) few others (by omega)
        rwa [List.replicate_succ', List.append_assoc] at body
      · rw [if_neg mark] at few
        have first : [c].head? ≠ some Kind.literal.mark := fun same =>
          mark (Option.some.inj same)
        have slash : Kind.literal.hasEscapes = true → c ≠ '\\' := fun escapes =>
          Bool.noConfusion escapes
        have read : ∀ rest, blockPiece? .literal ([c] ++ rest) = some ([c], rest) := by
          intro rest
          rcases plain c (by simp) with shown | rfl
          · exact blockPiece?_plain shown mark slash rest
          · rfl
        have body := ih (Nat.zero_le longest) few others (Nat.zero_le 2)
        exact Body.piece here (List.cons_ne_nil c []) first read body

/-- A line end after the first marks of a block is there exactly if the text has more than one
line, so none that belongs to the text is taken for it. -/
theorem block?_blockOf (usual : kind.IsUsual) (body : Body kind form text)
    (first : '\n' ∉ text → ∀ c, form.head? = some c → c ≠ '\n' ∧ c ≠ '\r')
    (mark : stop ≠ kind.mark) (rest : List Char) :
    block? kind (blockOf kind text form ++ stop :: rest) = some (text, stop :: rest) := by
  have other : (stop :: rest).head? ≠ some kind.mark := by simpa using mark
  by_cases lines : '\n' ∈ text
  · have read := block?_of_body usual body other ['\n'] rfl
    simpa only [blockOf, List.contains_iff_mem, lines, ↓reduceIte] using read
  · have none : skipLineEnd? ([] ++ form ++ fence kind ++ stop :: rest) = none := by
      cases form with
      | nil => exact skipLineEnd?_of_ne usual.1 usual.2
      | cons c form =>
          obtain ⟨lineEnd, carriage⟩ := first lines c rfl
          exact skipLineEnd?_of_ne lineEnd carriage
    have read := block?_of_body usual body other [] (by rw [none]; rfl)
    simpa only [blockOf, List.contains_iff_mem, lines, ↓reduceIte] using read

theorem head_escaped (oneLine : '\n' ∉ text) (head : (escaped true 0 text).head? = some c) :
    c ≠ '\n' ∧ c ≠ '\r' := by
  cases text with
  | nil => cases head
  | cons d text =>
      by_cases quote : d = '"'
      · subst quote
        cases head
        decide
      · rw [escaped, if_neg (by simpa using quote)] at head
        rcases escapedChar_cases true d with ⟨_, _, written, _⟩ | ⟨same, _, plain | ⟨_, rfl⟩⟩
        · rw [written] at head
          cases head
          decide
        · rw [same] at head
          cases head
          exact isPlain_ne plain
        · exact absurd (List.mem_cons_self) oneLine

/-!
### Strings of every style
-/

theorem strip?_fence_line (first : form.head? ≠ some kind.mark) (mark : stop ≠ kind.mark)
    (rest : List Char) :
    strip? (fence kind) (kind.mark :: (form ++ kind.mark :: stop :: rest)) = none := by
  cases form with
  | nil => simp [fence, List.replicate, strip?, Ne.symm mark]
  | cons c form =>
      have other : kind.mark ≠ c := fun same => first (by rw [same]; rfl)
      simp [fence, List.replicate, strip?, other]

/-- Marks that do not make three in a row start a string on one line. -/
theorem quoted?_line (first : form.head? ≠ some kind.mark) (mark : stop ≠ kind.mark)
    (read : line? kind (kind.mark :: (form ++ kind.mark :: stop :: rest)) =
      some (text, stop :: rest)) :
    quoted? kind (kind.mark :: (form ++ kind.mark :: stop :: rest)) = some (text, stop :: rest) := by
  rw [quoted?, strip?_fence_line first mark rest, Option.isSome_none, if_neg Bool.false_ne_true,
    read]

theorem quoted?_blockOf (kind : Kind) (text form rest : List Char) :
    quoted? kind (blockOf kind text form ++ rest) = block? kind (blockOf kind text form ++ rest) := by
  have opened : (strip? (fence kind) (blockOf kind text form ++ rest)).isSome = true := by
    simp only [blockOf, List.append_assoc, strip?_append, Option.isSome_some]
  rw [quoted?, if_pos opened]

section

variable (quote : stop ≠ '"') (apostrophe : stop ≠ '\'')

include quote in
theorem string?_basicLine (text : List Char) :
    string? (basicLine text ++ stop :: rest) = some (text, stop :: rest) := by
  have first : (escaped false 0 text).head? ≠ some Kind.basic.mark := by
    cases text with
    | nil => simp [escaped]
    | cons c text =>
        by_cases same : c = '"'
        · subst same
          simp [escaped, Kind.basic]
        · rw [escaped, if_neg (by simpa using same)]
          rcases escapedChar_cases false c with ⟨_, _, written, _⟩ | ⟨plain, _⟩
          · simp [written, Kind.basic]
          · rw [plain]
            exact fun found => same (Option.some.inj found)
  have read := line?_basicLine text (stop :: rest)
  simp only [basicLine, List.append_assoc, List.cons_append, List.nil_append] at read ⊢
  rw [string?, if_pos (by rfl)]
  exact quoted?_line first quote read

include apostrophe in
theorem string?_literalLine (plain : ∀ c ∈ text, isPlain c = true) (free : '\'' ∉ text) :
    string? (literalLine text ++ stop :: rest) = some (text, stop :: rest) := by
  have first : text.head? ≠ some Kind.literal.mark := fun found =>
    free (List.mem_of_mem_head? found)
  have read := line?_literalLine plain free (stop :: rest)
  simp only [literalLine, List.append_assoc, List.cons_append, List.nil_append] at read ⊢
  rw [string?, if_neg (by simp)]
  exact quoted?_line first apostrophe read

include quote in
theorem string?_block (text : List Char) :
    string? (blockOf .basic text (escaped true 0 text) ++ stop :: rest) =
      some (text, stop :: rest) := by
  have usual : Kind.basic.IsUsual := ⟨by decide, by decide⟩
  have read := block?_blockOf usual (body_escaped text (Nat.zero_le 2))
    (fun oneLine _ head => head_escaped oneLine head) quote rest
  rw [string?, if_pos (by rfl), quoted?_blockOf]
  exact read

include apostrophe in
theorem string?_blockLiteral (plain : ∀ c ∈ text, isPlain c = true ∨ c = '\n')
    (few : longestRun '\'' text ≤ 2) :
    string? (blockOf .literal text text ++ stop :: rest) = some (text, stop :: rest) := by
  have usual : Kind.literal.IsUsual := ⟨by decide, by decide⟩
  have first : '\n' ∉ text → ∀ c, text.head? = some c → c ≠ '\n' ∧ c ≠ '\r' := by
    intro oneLine c head
    have member := List.mem_of_mem_head? head
    rcases plain c member with shown | rfl
    · exact isPlain_ne shown
    · exact absurd member oneLine
  have read := block?_blockOf usual (body_literal text (Nat.le_refl 0) few plain) first apostrophe
    rest
  have head : (blockOf .literal text text ++ stop :: rest).head? = some '\'' := rfl
  rw [string?, head, if_neg (by decide), quoted?_blockOf]
  exact read

include quote apostrophe in
theorem string?_quoted (text rest : List Char) :
    string? (quoted text ++ stop :: rest) = some (text, stop :: rest) := by
  by_cases escapes : needsEscapes text = true
  · simp only [quoted, escapes, ↓reduceIte]
    split
    · exact string?_block quote text
    · exact string?_basicLine quote text
  · have shown := Bool.eq_false_iff.mpr escapes
    simp only [quoted, escapes, ↓reduceIte, Bool.false_eq_true]
    split
    · exact string?_basicLine quote text
    · split
      case _ line =>
        simp only [Bool.and_eq_true, Bool.not_eq_true', decide_eq_true_eq,
          List.contains_eq_mem, decide_eq_false_iff_not] at line
        exact string?_literalLine apostrophe (isPlain_of_oneLine shown line.1)
          (not_mem_of_longestRun line.2)
      · split
        · exact string?_block quote text
        · split
          case _ few => exact string?_blockLiteral apostrophe (needsEscapes_eq_false shown) few
          · split
            · exact string?_block quote text
            · exact string?_basicLine quote text

end

end QueryJournal.Toml
