import QueryJournal.Json.Reader

namespace QueryJournal.Json

open QueryJournal.Document
open QueryJournal.Utf8 (Bytes)

/-!
A text in braces that can be parsed has no shorter beginning that can be parsed. The lexer never
gives back a token, the closing brace at the end is a token of its own, and a reader that has its
value takes no further token. A number at the end of a beginning is a token only because nothing
follows; it is no value of the whole text because the first brace is still open.
-/

namespace Lexer

variable {lexer next : Lexer} {found : List Token} {byte : UInt8} {bytes : Bytes}
  {tokens : List Token}

/-- What comes next, if anything does, has the tokens that were found and maybe more. -/
def Grows (found : List Token) (result : Option Lexer) : Prop :=
  ∀ next, result = some next → found <:+ next.found

theorem Grows.none (found : List Token) : Grows found .none :=
  nofun

theorem Grows.some (longer : found <:+ next.found) : Grows found (.some next) := by
  rintro _ ⟨rfl⟩
  exact longer

theorem Grows.ite {condition : Prop} [Decidable condition] {yes no : Option Lexer}
    (first : Grows found yes) (second : Grows found no) :
    Grows found (if condition then yes else no) := by
  by_cases holds : condition
  · rw [if_pos holds]
    exact first
  · rw [if_neg holds]
    exact second

theorem Grows.map {α : Type} {make : α → Lexer} (result : Option α)
    (same : ∀ value, found <:+ (make value).found) : Grows found (result.map make) := by
  intro next made
  obtain ⟨value, _, rfl⟩ := Option.map_eq_some_iff.mp made
  exact same value

theorem grows_begin (found : List Token) (byte : UInt8) : Grows found (begin found byte) := by
  unfold begin
  repeat' apply Grows.ite
  all_goals
    first
    | exact .some (List.suffix_refl found)
    | exact .some (List.suffix_cons _ found)
    | exact .map _ fun _ => List.suffix_refl found

theorem grows_step (lexer : Lexer) (byte : UInt8) : Grows lexer.found (lexer.step byte) := by
  obtain ⟨found, mode⟩ := lexer
  have same := List.suffix_refl found
  have one := fun token => List.suffix_cons token found
  cases mode with
  | between => exact grows_begin found byte
  | word rest value =>
      rcases rest with _ | ⟨first, _ | ⟨second, rest⟩⟩
      · exact .none found
      · exact .ite (.some (one _)) (.none found)
      · exact .ite (.some same) (.none found)
  | number part =>
      cases read : part.next? byte with
      | some longer =>
          simp only [step, read]
          exact .some same
      | none =>
          intro next begun
          simp only [step, read] at begun
          obtain ⟨value, _, begun⟩ := Option.bind_eq_some_iff.mp begun
          exact (one _).trans (grows_begin _ byte next begun)
  | text pieces => exact .ite (.some (one _)) (.ite (.some same) (.ite (.none found) (.some same)))
  | escape pieces => exact .ite (.some same) (.map _ fun _ => same)
  | unit pieces missing code =>
      refine .map _ fun digit => ?_
      dsimp only
      split <;> exact same

theorem foldlM_found (run : bytes.foldlM step lexer = some next) : lexer.found <:+ next.found := by
  induction bytes generalizing lexer with
  | nil =>
      cases run
      exact List.suffix_refl _
  | cons byte bytes ih =>
      rw [List.foldlM_cons] at run
      obtain ⟨middle, stepped, later⟩ := Option.bind_eq_some_iff.mp run
      exact (grows_step lexer byte middle stepped).trans (ih later)

/-- If a text may end after a closing brace, the brace has added a token to those before it. -/
theorem step_closing (stepped : lexer.step 0x7D = some next) (ended : next.tokens? = some tokens) :
    tokens = next.found.reverse ∧ ∃ token, token :: lexer.found <:+ next.found := by
  obtain ⟨found, mode⟩ := lexer
  cases mode with
  | between =>
      cases stepped
      cases ended
      exact ⟨rfl, _, List.suffix_refl _⟩
  | word rest value =>
      rcases rest with _ | ⟨first, _ | ⟨second, rest⟩⟩
      · contradiction
      · simp only [step, Option.ite_none_right_eq_some, Option.some.injEq] at stepped
        obtain ⟨_, rfl⟩ := stepped
        cases ended
        exact ⟨rfl, _, List.suffix_refl _⟩
      · simp only [step, Option.ite_none_right_eq_some, Option.some.injEq] at stepped
        obtain ⟨_, rfl⟩ := stepped
        contradiction
  | number part =>
      cases read : part.next? 0x7D with
      | some longer =>
        obtain ⟨negative, magnitude, phase⟩ := part
        cases phase <;> simp [NumberPart.next?, isDigitByte] at read
      | none =>
        simp only [step, read] at stepped
        obtain ⟨value, _, begun⟩ := Option.bind_eq_some_iff.mp stepped
        cases begun
        cases ended
        exact ⟨rfl, _, List.suffix_cons _ _⟩
  | text pieces =>
      cases stepped
      contradiction
  | escape pieces => contradiction
  | unit pieces missing code => contradiction

end Lexer

namespace Reader

variable {reader next : Reader} {token : Token} {tokens : List Token} {value : Value}

/-- Unless the value is complete a container is open. -/
def IsInside (reader : Reader) : Prop :=
  reader.stack = [] → ∃ value, reader.position = .done value

theorem isInside_cons (frame : Frame) (outer : List Frame) (position : Position) :
    IsInside { stack := frame :: outer, position } :=
  fun empty => nomatch empty

theorem isInside_complete (stack : List Frame) (value : Value) :
    (complete stack value).IsInside := by
  cases stack with
  | nil => exact fun _ => ⟨value, rfl⟩
  | cons frame outer => cases frame <;> exact isInside_cons _ _ _

theorem IsInside.step (inside : reader.IsInside) (stepped : reader.step token = some next) :
    next.IsInside := by
  unfold Reader.step at stepped
  split at stepped
  case h_8 _ colon =>
    cases stepped
    intro empty
    obtain ⟨value, done⟩ := inside empty
    rw [colon] at done
    contradiction
  all_goals cases stepped
  all_goals
    first
    | exact isInside_complete _ _
    | exact isInside_cons _ _ _

theorem IsInside.foldlM (inside : reader.IsInside)
    (run : tokens.foldlM Reader.step reader = some next) : next.IsInside := by
  induction tokens generalizing reader with
  | nil =>
      cases run
      exact inside
  | cons token tokens ih =>
      rw [List.foldlM_cons] at run
      obtain ⟨middle, stepped, later⟩ := Option.bind_eq_some_iff.mp run
      exact ih (inside.step stepped) later

/-- A scalar within a container does not complete the value of the text. -/
theorem IsInside.value?_scalar (inside : reader.IsInside)
    (stepped : reader.step (.scalar value) = some next) : next.value? = none := by
  obtain ⟨stack, position⟩ := reader
  cases position with
  | value mayClose =>
      cases stepped
      cases stack with
      | nil =>
          obtain ⟨_, done⟩ := inside rfl
          contradiction
      | cons frame outer => cases frame <;> rfl
  | name mayClose => cases mayClose <;> contradiction
  | colon => contradiction
  | next => contradiction
  | done value => contradiction

/-- Once its value is complete a reader takes no token. -/
theorem step_of_value? (done : reader.value? = some value) (token : Token) :
    reader.step token = none := by
  obtain ⟨stack, position⟩ := reader
  cases position <;> simp [value?] at done
  rfl

end Reader

/-- What it takes to parse a text. -/
theorem parse?_eq_some {bytes : Bytes} {value : Value} (parsed : parse? bytes = some value) :
    ∃ lexer tokens reader, bytes.foldlM Lexer.step Lexer.start = some lexer ∧
      lexer.tokens? = some tokens ∧ tokens.foldlM Reader.step Reader.start = some reader ∧
        reader.value? = some value := by
  obtain ⟨tokens, lexed, read⟩ := Option.bind_eq_some_iff.mp parsed
  obtain ⟨lexer, run, ended⟩ := Option.bind_eq_some_iff.mp lexed
  obtain ⟨reader, steps, done⟩ := Option.bind_eq_some_iff.mp read
  exact ⟨lexer, tokens, reader, run, ended, steps, done⟩

theorem parse?_beginning {front middle : Bytes} {value : Value}
    (parsed : parse? (0x7B :: front ++ (middle ++ [0x7D])) = some value) :
    parse? (0x7B :: front) = none := by
  refine Option.eq_none_iff_forall_not_mem.mpr fun other early => ?_
  obtain ⟨lexer, tokens, reader, run, ended, steps, done⟩ := parse?_eq_some early
  obtain ⟨last, all, final, wholeRun, wholeEnded, wholeSteps, _⟩ := parse?_eq_some parsed
  rw [List.foldlM_append, run] at wholeRun
  change List.foldlM Lexer.step lexer (middle ++ [0x7D]) = some last at wholeRun
  rw [List.foldlM_append] at wholeRun
  obtain ⟨before, between, closing⟩ := Option.bind_eq_some_iff.mp wholeRun
  have closed : before.step 0x7D = some last := by simpa using closing
  obtain ⟨rfl, token, longer⟩ := Lexer.step_closing closed wholeEnded
  obtain ⟨added, grown⟩ := Lexer.foldlM_found between
  obtain ⟨more, whole⟩ := longer
  have opened : [Token.openTable] <:+ lexer.found :=
    @Lexer.foldlM_found { found := [.openTable], mode := .between } lexer front run
  have behind : last.found.reverse =
      lexer.found.reverse ++ (added.reverse ++ token :: more.reverse) := by
    rw [← whole, ← grown]
    simp
  cases ending : lexer.mode with
  | between =>
      -- The value of the beginning is complete, but the whole text has one more token at least.
      simp only [Lexer.tokens?, ending, Option.some.injEq] at ended
      rw [behind, ended, List.foldlM_append, steps] at wholeSteps
      cases rest : added.reverse ++ token :: more.reverse with
      | nil => simp at rest
      | cons first others =>
          change List.foldlM Reader.step reader _ = some final at wholeSteps
          rw [rest, List.foldlM_cons, Reader.step_of_value? done] at wholeSteps
          contradiction
  | number part =>
      -- The beginning ends in a number, which completes nothing within the first brace.
      obtain ⟨newer, known⟩ := opened
      simp only [Lexer.tokens?, ending, Option.map_eq_some_iff] at ended
      obtain ⟨scalar, _, rfl⟩ := ended
      rw [← known] at steps
      simp only [List.reverse_cons, List.reverse_append, List.reverse_nil, List.nil_append,
        List.singleton_append] at steps
      change List.foldlM Reader.step
        { stack := [.table none []], position := .name true } (newer.reverse ++ [.scalar scalar]) =
          some reader at steps
      rw [List.foldlM_append] at steps
      obtain ⟨inner, inside, scalarStep⟩ := Option.bind_eq_some_iff.mp steps
      have stepped : inner.step (.scalar scalar) = some reader := by simpa using scalarStep
      have begun := Reader.isInside_cons (.table none []) [] (.name true)
      rw [(begun.foldlM inside).value?_scalar stepped] at done
      contradiction
  | word rest value => simp [Lexer.tokens?, ending] at ended
  | text pieces => simp [Lexer.tokens?, ending] at ended
  | escape pieces => simp [Lexer.tokens?, ending] at ended
  | unit pieces missing code => simp [Lexer.tokens?, ending] at ended

end QueryJournal.Json
