import QueryJournal.Proofs.Toml.Inline
import QueryJournal.Proofs.Toml.Key

namespace QueryJournal.Toml

open QueryJournal.Document
open QueryJournal.Text

/-!
Reading the lines of a text that was written section by section. A draft takes in a section as a
whole: its header, then its settings.
-/

variable {draft next : Draft} {part : Section} {c : Char} {text rest : List Char}

theorem lineRest?_lineEnd (rest : List Char) : lineRest? ('\n' :: rest) = some rest :=
  rfl

/-- A value that may stand in a setting. -/
def IsSettable (value : Value) : Prop :=
  Reads (nestingLimit - 1) value

namespace Draft

theorem lines?_nil (draft : Draft) : draft.lines? [] = some draft := by
  rw [lines?]
  rfl

theorem lines?_of_line? (shown : isSpace c = false)
    (read : draft.line? (c :: text) = some (next, rest)) (shorter : rest.length ≤ text.length) :
    draft.lines? (c :: text) = next.lines? rest := by
  have start : (c :: text).dropWhile isSpace = c :: text :=
    List.dropWhile_cons_of_neg (by simp [shown])
  rw [lines?, start]
  simp only [read, List.length_cons, Nat.lt_succ_iff, shorter, ↓reduceIte]

theorem lines?_blank (draft : Draft) (rest : List Char) :
    draft.lines? ('\n' :: rest) = draft.lines? rest :=
  lines?_of_line? (by decide) rfl (Nat.le_refl _)

theorem setting?_settingLine (name : String) {value : Value} (settable : IsSettable value)
    (rest : List Char) :
    Toml.setting? (value? (nestingLimit - 1)) (settingLine (name, value) ++ rest) =
      some ((([], name), value), '\n' :: rest) := by
  obtain ⟨⟨first, tail, shown, outside⟩, reads⟩ := settable
  have read := reads '\n' rest (by simp [IsStop])
  have key := key?_setting name (' ' :: (inlineText value ++ '\n' :: rest))
  have start : (' ' :: (inlineText value ++ '\n' :: rest)).dropWhile isSpace =
      inlineText value ++ '\n' :: rest := by
    have space : isSpace first = false := by
      simp only [IsOutside, IsGap, List.mem_cons, List.not_mem_nil, or_false, not_or] at outside
      simp [isSpace, outside.1.1, outside.1.2.1]
    rw [shown, List.cons_append, List.dropWhile_cons_of_pos (by decide),
      List.dropWhile_cons_of_neg (by simp [space])]
  simp only [settingLine, List.append_assoc, List.cons_append, List.nil_append, Toml.setting?, key,
    skip?_cons, start, read, Option.bind_eq_bind, Option.bind_some, Option.pure_def]

/-- A line with a setting changes the table to which the setting belongs, and nothing else. -/
theorem lines?_setting {name : String} {value : Value} (settable : IsSettable value)
    (taken : draft.set [] name value = some next) (rest : List Char) :
    draft.lines? (settingLine (name, value) ++ rest) = next.lines? rest := by
  have read := setting?_settingLine name settable rest
  obtain ⟨c, more, written, other⟩ := start_writtenKey name.toList
  simp only [List.mem_cons, List.not_mem_nil, or_false, not_or] at other
  obtain ⟨space, tab, comment, lineEnd, carriage, header⟩ := other
  have line : settingLine (name, value) ++ rest =
      c :: (more ++ ([' ', '=', ' '] ++ (inlineText value ++ ['\n'] ++ rest))) := by
    simp [settingLine, written]
  have found : draft.line? (settingLine (name, value) ++ rest) = some (next, rest) := by
    rw [line] at read ⊢
    simp only [line?, beq_iff_eq, comment, lineEnd, carriage, header, Bool.or_eq_true, or_self,
      ↓reduceIte, setting?, read, taken, lineRest?_lineEnd, Option.bind_eq_bind, Option.bind_some,
      Option.pure_def]
  rw [line] at found ⊢
  refine lines?_of_line? (by simp [isSpace, space, tab]) found ?_
  simp only [List.length_append]
  omega

theorem lines?_header {path : List String} {name : String}
    (short : path.length + 1 < nestingLimit) (defined : draft.define path name = some next)
    (rest : List Char) :
    draft.lines? (headerLine (path ++ [name]) ++ rest) = next.lines? rest := by
  have key := key?_path name short ('\n' :: rest)
  obtain ⟨c, more, written, bracket⟩ : ∃ c more,
      ['.'].intercalate ((path ++ [name]).map fun name => writtenKey name.toList) = c :: more ∧
        c ≠ '[' := by
    obtain ⟨first, others, parts⟩ := List.exists_cons_of_ne_nil
      (List.append_ne_nil_of_right_ne_nil path (List.cons_ne_nil name []))
    obtain ⟨c, more, written, other⟩ := start_writtenKey first.toList
    simp only [List.mem_cons, List.not_mem_nil, or_false, not_or] at other
    refine ⟨c, more ++ pointedKeys others, ?_, other.2.2.2.2.2⟩
    rw [parts, intercalate_writtenKey, written, List.cons_append]
  have line : headerLine (path ++ [name]) ++ rest = '[' :: c :: (more ++ ']' :: '\n' :: rest) := by
    rw [headerLine, written]
    simp
  have found : draft.line? (headerLine (path ++ [name]) ++ rest) = some (next, rest) := by
    rw [written, List.cons_append] at key
    rw [line]
    simp only [line?, beq_iff_eq, Char.reduceEq, ↓reduceIte, Bool.or_eq_true, or_self]
    unfold header?
    split
    case h_1 same => exact absurd (List.cons.inj same).1 bracket
    case h_2 =>
      simp only [key, defined, skip?_cons, lineRest?_lineEnd, Option.bind_eq_bind,
        Option.bind_some, Option.pure_def]
  rw [line] at found ⊢
  refine lines?_of_line? (by decide) found ?_
  simp only [List.length_append, List.length_cons]
  omega

/-- Takes in settings one after another. -/
def setAll (draft : Draft) (settings : List (String × Value)) : Option Draft :=
  settings.foldlM (fun draft setting => draft.set [] setting.1 setting.2) draft

theorem lines?_settings {settings : List (String × Value)}
    (settable : ∀ setting ∈ settings, IsSettable setting.2)
    (taken : draft.setAll settings = some next) (rest : List Char) :
    draft.lines? (settings.flatMap settingLine ++ rest) = next.lines? rest := by
  induction settings generalizing draft with
  | nil =>
      cases taken
      rfl
  | cons setting settings ih =>
      rw [setAll, List.foldlM_cons] at taken
      obtain ⟨middle, first, others⟩ := Option.bind_eq_some_iff.mp taken
      rw [List.flatMap_cons, List.append_assoc,
        lines?_setting (settable setting List.mem_cons_self) first]
      exact ih (fun other member => settable other (List.mem_cons_of_mem setting member)) others

/-- Takes in a section: its header, unless it is the outermost one, and then its settings. -/
def enter (draft : Draft) (part : Section) : Option Draft :=
  match part.path.getLast? with
  | none => draft.setAll part.settings
  | some name => (draft.define part.path.dropLast name).bind fun draft =>
      draft.setAll part.settings

end Draft

/-- A section of which everything can be read. -/
structure Section.IsReadable (part : Section) : Prop where
  short : part.path.length < nestingLimit
  settable : ∀ setting ∈ part.settings, IsSettable setting.2

theorem Draft.lines?_section (readable : part.IsReadable) (entered : draft.enter part = some next)
    (rest : List Char) : draft.lines? (part.text ++ rest) = next.lines? rest := by
  obtain ⟨path, isEmpty, settings⟩ := part
  obtain ⟨short, settable⟩ := readable
  rcases path.eq_nil_or_concat with rfl | ⟨before, name, rfl⟩
  · exact lines?_settings settable entered rest
  · rw [enter, List.concat_eq_append, List.getLast?_concat, List.dropLast_concat] at entered
    obtain ⟨middle, defined, taken⟩ := Option.bind_eq_some_iff.mp entered
    have header : (before.concat name).isEmpty = false := by simp
    rw [List.concat_eq_append, List.length_append, List.length_singleton] at short
    simp only [Section.text, header, Bool.false_eq_true, ↓reduceIte, List.append_assoc]
    rw [List.concat_eq_append, lines?_header short defined, lines?_settings settable taken]

/-- From a draft to the one after a list of sections. -/
inductive Takes : Draft → List Section → Draft → Prop
  | nil (draft : Draft) : Takes draft [] draft
  | cons {draft middle last : Draft} {part : Section} {parts : List Section}
      (readable : part.IsReadable) (entered : draft.enter part = some middle)
      (others : Takes middle parts last) : Takes draft (part :: parts) last

theorem Takes.append {draft middle last : Draft} {front back : List Section}
    (first : Takes draft front middle) (second : Takes middle back last) :
    Takes draft (front ++ back) last := by
  induction first with
  | nil draft => exact second
  | cons readable entered _ ih => exact .cons readable entered (ih second)

/-- Sections are read one after another; the empty lines between them say nothing. -/
theorem Takes.lines? {draft last : Draft} {parts : List Section}
    (takes : Takes draft parts last) :
    draft.lines? (['\n'].intercalate (parts.map Section.text)) = some last := by
  induction takes with
  | nil draft => exact draft.lines?_nil
  | @cons draft middle last part parts readable entered others ih =>
      cases parts with
      | nil =>
          have read := Draft.lines?_section readable entered []
          rw [List.append_nil] at read
          rw [List.map_singleton, List.intercalate_singleton, read]
          exact ih
      | cons second parts =>
          simp only [List.map_cons] at ih ⊢
          rw [List.intercalate_cons_cons, List.append_assoc,
            Draft.lines?_section readable entered, List.singleton_append, Draft.lines?_blank, ih]

end QueryJournal.Toml
