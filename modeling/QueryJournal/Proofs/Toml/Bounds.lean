import QueryJournal.Proofs.Toml.Inline

namespace QueryJournal.Toml

open QueryJournal.Document
open QueryJournal.Text

/-!
Every whole number that is read from a text is one that can be written into a text again. Numbers
come from one place of the reader only; all else hands on what it was given.
-/

variable {value : Value} {text rest : List Char} {members result : Members} {name : String}
  {path : List String}

/-- A value without numbers that no text may hold. -/
inductive Bounded : Value → Prop
  | null : Bounded .null
  | bool (value : Bool) : Bounded (.bool value)
  | integer {value : Int} (word : IsWord value) : Bounded (.integer value)
  | text (value : String) : Bounded (.text value)
  | list {items : List Value} (each : ∀ item ∈ items, Bounded item) : Bounded (.list items)
  | table {members : List (String × Value)} (each : ∀ member ∈ members, Bounded member.2) :
      Bounded (.table members)
  | unread : Bounded .unread

/-!
### Numbers
-/

theorem bounded_integerOf? {negative : Bool} {magnitude : Nat}
    (read : integerOf? negative magnitude = some value) : Bounded value := by
  simp only [integerOf?, Option.ite_none_right_eq_some, Option.some.injEq] at read
  obtain ⟨word, rfl⟩ := read
  exact .integer word

/-- What a scan reads has no numbers out of bounds. -/
def ReadsBounded (scan : Scan Value) : Prop :=
  ∀ text value rest, scan text = some (value, rest) → Bounded value

theorem ReadsBounded.orElse {first second : Scan Value} (one : ReadsBounded first)
    (other : ReadsBounded second) : ReadsBounded fun text => first text <|> second text := by
  intro text value rest read
  dsimp only at read
  cases found : first text with
  | none =>
      rw [found] at read
      exact other text value rest read
  | some pair =>
      rw [found] at read
      cases read
      exact one text value rest found

theorem readsBounded_integer? : ReadsBounded integer? := by
  have radix : ∀ base, ReadsBounded (radixInteger? base) := by
    intro base text value rest read
    obtain ⟨⟨digits, more⟩, _, read⟩ := Option.bind_eq_some_iff.mp read
    obtain ⟨number, found, same⟩ := Option.bind_eq_some_iff.mp read
    cases same
    exact bounded_integerOf? found
  intro text value rest read
  unfold integer? at read
  split at read
  · exact radix 16 _ _ _ read
  · exact radix 8 _ _ _ read
  · exact radix 2 _ _ _ read
  · obtain ⟨⟨digits, more⟩, _, read⟩ := Option.bind_eq_some_iff.mp read
    obtain ⟨number, found, same⟩ := Option.bind_eq_some_iff.mp read
    cases same
    exact bounded_integerOf? found

theorem readsBounded_momentValue? : ReadsBounded momentValue? := by
  intro text value rest read
  obtain ⟨⟨moment, more⟩, _, same⟩ := Option.map_eq_some_iff.mp read
  cases same
  refine .table fun member among => ?_
  cases List.mem_singleton.mp among
  exact .text _

theorem readsBounded_fractional? : ReadsBounded fractional? := by
  intro text value rest read
  unfold fractional? at read
  generalize sign text = signed at read
  obtain ⟨negative, start⟩ := signed
  obtain ⟨⟨digits, afterDigits⟩, _, read⟩ := Option.bind_eq_some_iff.mp read
  obtain ⟨⟨⟨more, exponent⟩, afterFraction⟩, _, read⟩ := Option.bind_eq_some_iff.mp read
  dsimp only at read
  split at read
  · cases read
    exact .unread
  · cases read

theorem readsBounded_specialNumber? : ReadsBounded specialNumber? := by
  intro text value rest read
  obtain ⟨more, _, same⟩ := Option.map_eq_some_iff.mp read
  cases same
  exact .unread

theorem readsBounded_numeric? : ReadsBounded numeric? :=
  readsBounded_momentValue?.orElse
    (readsBounded_fractional?.orElse (readsBounded_specialNumber?.orElse readsBounded_integer?))

theorem readsBounded_word? (word : List Char) (bounded : Bounded value) :
    ReadsBounded (word? word value) := by
  intro text value rest read
  obtain ⟨more, _, same⟩ := Option.map_eq_some_iff.mp read
  cases same
  exact bounded

theorem readsBounded_scalar? : ReadsBounded scalar? := by
  intro text value rest read
  unfold scalar? at read
  split at read
  · cases read
  · split at read
    · obtain ⟨⟨chars, more⟩, _, same⟩ := Option.map_eq_some_iff.mp read
      cases same
      exact .text _
    · split at read
      · exact readsBounded_numeric? _ _ _ read
      · exact (readsBounded_word? _ (.bool true)).orElse
          ((readsBounded_word? _ (.bool false)).orElse readsBounded_specialNumber?) _ _ _ read

/-!
### Tables
-/

/-- The same of what a name stands for while tables are put together. -/
inductive Node.Bounded : Node → Prop
  | value {value : Value} (bounded : Toml.Bounded value) : Bounded (.value value)
  | table {members : List (String × Node)} (origin : Origin)
      (each : ∀ member ∈ members, Bounded member.2) : Bounded (.table origin members)
  | tables {items : List (List (String × Node))}
      (each : ∀ members ∈ items, ∀ member ∈ members, Bounded member.2) : Bounded (.tables items)

def Members.Bounded (members : Members) : Prop :=
  ∀ member ∈ members, member.2.Bounded

theorem Members.bounded_nil : Members.Bounded [] :=
  fun _ among => absurd among List.not_mem_nil

theorem mem_memberValues {member : String × Value} (among : member ∈ memberValues members) :
    ∃ node, (member.1, node) ∈ members ∧ member.2 = node.toValue := by
  induction members with
  | nil => exact absurd among List.not_mem_nil
  | cons first members ih =>
      obtain ⟨name, node⟩ := first
      rw [memberValues, List.mem_cons] at among
      rcases among with rfl | later
      · exact ⟨node, List.mem_cons_self, rfl⟩
      · obtain ⟨other, found, same⟩ := ih later
        exact ⟨other, List.mem_cons_of_mem _ found, same⟩

theorem mem_tableValues {items : List Members} (among : value ∈ tableValues items) :
    ∃ members ∈ items, value = .table (memberValues members) := by
  induction items with
  | nil => exact absurd among List.not_mem_nil
  | cons first items ih =>
      rw [tableValues, List.mem_cons] at among
      rcases among with rfl | later
      · exact ⟨first, List.mem_cons_self, rfl⟩
      · obtain ⟨members, found, same⟩ := ih later
        exact ⟨members, List.mem_cons_of_mem _ found, same⟩

theorem Node.Bounded.toValue {node : Node} (bounded : node.Bounded) :
    Toml.Bounded node.toValue := by
  induction bounded with
  | value bounded => exact bounded
  | table origin each ih =>
      refine .table fun member among => ?_
      obtain ⟨node, found, same⟩ := mem_memberValues among
      rw [same]
      exact ih _ found
  | tables each ih =>
      refine .list fun value among => ?_
      obtain ⟨members, inside, rfl⟩ := mem_tableValues among
      refine .table fun member among => ?_
      obtain ⟨node, found, same⟩ := mem_memberValues among
      rw [same]
      exact ih members inside _ found

theorem Members.Bounded.toValue (bounded : members.Bounded) :
    Toml.Bounded (.table (memberValues members)) :=
  (Node.Bounded.table .defined bounded).toValue

/-- A change of what a name stands for that brings in no number out of bounds. -/
def Spares (change : Option Node → Option Node) : Prop :=
  ∀ found made, (∀ node, found = some node → node.Bounded) → change found = some made →
    made.Bounded

namespace Members

theorem Bounded.update {change : Option Node → Option Node} (bounded : members.Bounded)
    (spares : Spares change) (changed : members.update name change = some result) :
    result.Bounded := by
  induction members generalizing result with
  | nil =>
      obtain ⟨node, made, rfl⟩ := Option.map_eq_some_iff.mp changed
      intro member among
      cases List.mem_singleton.mp among
      exact spares none node (by simp) made
  | cons first members ih =>
      obtain ⟨other, node⟩ := first
      have here : node.Bounded := bounded _ List.mem_cons_self
      have later : Members.Bounded members := fun member among =>
        bounded member (List.mem_cons_of_mem _ among)
      rw [Members.update] at changed
      split at changed
      · obtain ⟨changedNode, made, rfl⟩ := Option.map_eq_some_iff.mp changed
        have after := spares (some node) changedNode (by rintro _ ⟨rfl⟩; exact here) made
        exact List.forall_mem_cons.mpr ⟨after, later⟩
      · obtain ⟨rest, made, rfl⟩ := Option.map_eq_some_iff.mp changed
        exact List.forall_mem_cons.mpr ⟨here, ih later made⟩

/-- A change of a table that brings in no number out of bounds. -/
def SparesTables (change : Members → Option Members) : Prop :=
  ∀ inner result, Members.Bounded inner → change inner = some result → result.Bounded

theorem bounded_updateLast {change : Members → Option Members} {items changed : List Members}
    (spares : SparesTables change) (bounded : ∀ members ∈ items, Members.Bounded members)
    (updated : updateLast change items = some changed) :
    ∀ members ∈ changed, Members.Bounded members := by
  unfold updateLast at updated
  split at updated
  · cases updated
  · rename_i last found
    obtain ⟨after, made, rfl⟩ := Option.map_eq_some_iff.mp updated
    intro members among
    rcases List.mem_append.mp among with before | same
    · exact bounded members (List.mem_of_mem_dropLast before)
    · rw [List.mem_singleton] at same
      subst same
      exact spares last _ (bounded last (List.mem_of_getLast? found)) made

theorem sparesTables_descend {made : Origin} {change : Origin → Members → Option Members}
    (spares : ∀ origin, SparesTables (change origin)) (path : List String) (origin : Origin) :
    SparesTables (descend made change origin path) := by
  induction path generalizing origin with
  | nil => exact spares origin
  | cons name path ih =>
      intro members result bounded changed
      refine bounded.update ?_ changed
      -- The name stands for nothing, a value, a table, or a list of tables.
      rintro (_ | _ | ⟨origin, inner⟩ | items) node known updated
      · obtain ⟨inner, found, rfl⟩ := Option.map_eq_some_iff.mp updated
        exact .table made (ih made [] inner bounded_nil found)
      · cases updated
      · dsimp only at updated
        split at updated
        · cases updated
        · obtain ⟨inner, found, rfl⟩ := Option.map_eq_some_iff.mp updated
          cases known _ rfl with
          | table _ each => exact .table origin (ih origin _ inner each found)
      · obtain ⟨changedItems, found, rfl⟩ := Option.map_eq_some_iff.mp updated
        cases known _ rfl with
        | tables each => exact .tables (bounded_updateLast (ih .defined) each found)

theorem Bounded.set (bounded : members.Bounded) (within : Toml.Bounded value)
    (changed : members.set path name value = some result) : result.Bounded := by
  refine sparesTables_descend (fun origin inner result known updated => ?_) path .defined members
    result bounded changed
  split at updated
  · cases updated
  · refine known.update ?_ updated
    rintro (_ | _) made _ same
    · cases same
      exact .value within
    · cases same

theorem Bounded.define (bounded : members.Bounded)
    (changed : members.define path name = some result) : result.Bounded := by
  refine sparesTables_descend (fun origin inner result known updated => ?_) path .defined members
    result bounded changed
  refine known.update ?_ updated
  intro found made kept same
  dsimp only at same
  split at same
  · cases same
    exact .table .defined bounded_nil
  · cases same
    cases kept _ rfl with
    | table _ each => exact .table .defined each
  · cases same

theorem Bounded.append (bounded : members.Bounded)
    (changed : members.append path name = some result) : result.Bounded := by
  refine sparesTables_descend (fun origin inner result known updated => ?_) path .defined members
    result bounded changed
  refine known.update ?_ updated
  intro found made kept same
  dsimp only at same
  split at same
  · cases same
    refine .tables fun members among => ?_
    cases List.mem_singleton.mp among
    exact bounded_nil
  · cases same
    cases kept _ rfl with
    | tables each =>
        refine .tables fun members among => ?_
        rcases List.mem_append.mp among with before | last
        · exact each members before
        · cases List.mem_singleton.mp last
          exact bounded_nil
  · cases same

end Members

/-!
### The reader
-/

theorem readsBounded_items? {item? : Scan Value} (each : ReadsBounded item?) {items : List Value}
    (read : items? item? text = some (items, rest)) : ∀ item ∈ items, Bounded item := by
  induction size : text.length using Nat.strongRecOn generalizing text items with
  | _ bound ih =>
      rw [items?] at read
      split at read
      · cases read
        exact fun _ among => absurd among List.not_mem_nil
      · split at read
        · cases read
        · rename_i item more found
          have first := each _ _ _ found
          split at read
          · cases read
            intro other among
            cases List.mem_singleton.mp among
            exact first
          · split at read
            · rename_i shorter
              obtain ⟨⟨others, last⟩, later, same⟩ := Option.map_eq_some_iff.mp read
              cases same
              exact List.forall_mem_cons.mpr ⟨first, ih _ (size ▸ shorter) later rfl⟩
            · cases read
          · cases read

theorem bounded_setting? {item? : Scan Value} (each : ReadsBounded item?)
    {key : List String × String} (read : setting? item? text = some ((key, value), rest)) :
    Bounded value := by
  obtain ⟨⟨found, afterKey⟩, _, read⟩ := Option.bind_eq_some_iff.mp read
  obtain ⟨afterMark, _, read⟩ := Option.bind_eq_some_iff.mp read
  obtain ⟨⟨item, after⟩, taken, same⟩ := Option.bind_eq_some_iff.mp read
  cases same
  exact each _ _ _ taken

theorem Members.Bounded.settings? {item? : Scan Value} (each : ReadsBounded item?)
    (bounded : members.Bounded)
    (read : Toml.settings? item? members text = some (result, rest)) : result.Bounded := by
  induction size : text.length using Nat.strongRecOn generalizing text members with
  | _ bound ih =>
      rw [Toml.settings?] at read
      split at read
      · cases read
      · rename_i path name value more found
        have setting := bounded_setting? each found
        split at read
        · cases read
        · rename_i changed updated
          have after := bounded.set setting updated
          split at read
          · cases read
            exact after
          · split at read
            · rename_i shorter
              exact ih _ (size ▸ shorter) after read rfl
            · cases read
          · cases read

theorem readsBounded_value? (depth : Nat) : ReadsBounded (value? depth) := by
  induction depth with
  | zero => exact readsBounded_scalar?
  | succ depth ih =>
      intro text value rest read
      unfold value? at read
      split at read
      · obtain ⟨⟨items, more⟩, found, same⟩ := Option.map_eq_some_iff.mp read
        cases same
        exact .list (readsBounded_items? ih found)
      · unfold braces? at read
        split at read
        · cases read
          exact .table fun _ among => absurd among List.not_mem_nil
        · obtain ⟨⟨members, more⟩, found, same⟩ := Option.map_eq_some_iff.mp read
          cases same
          exact (Members.bounded_nil.settings? ih found).toValue
      · exact readsBounded_scalar? _ _ _ read

namespace Draft

variable {draft next : Draft}

def Bounded (draft : Draft) : Prop :=
  draft.root.Bounded

theorem Bounded.set (bounded : draft.Bounded) (within : Toml.Bounded value)
    (changed : draft.set path name value = some next) : next.Bounded := by
  obtain ⟨root, updated, rfl⟩ := Option.map_eq_some_iff.mp changed
  exact Members.sparesTables_descend
    (fun _ _ _ known changed => Members.Bounded.set known within changed) draft.place .defined
    draft.root root bounded updated

theorem Bounded.line? (bounded : draft.Bounded) (read : draft.line? text = some (next, rest)) :
    next.Bounded := by
  unfold Draft.line? at read
  split at read
  · cases read
  · split at read
    · obtain ⟨more, _, same⟩ := Option.map_eq_some_iff.mp read
      cases same
      exact bounded
    · split at read
      · unfold header? at read
        split at read
        · obtain ⟨⟨⟨path, name⟩, afterKey⟩, _, read⟩ := Option.bind_eq_some_iff.mp read
          obtain ⟨afterMarks, _, read⟩ := Option.bind_eq_some_iff.mp read
          obtain ⟨changed, made, read⟩ := Option.bind_eq_some_iff.mp read
          obtain ⟨last, _, same⟩ := Option.bind_eq_some_iff.mp read
          cases same
          obtain ⟨root, updated, rfl⟩ := Option.map_eq_some_iff.mp made
          exact Members.Bounded.append bounded updated
        · obtain ⟨⟨⟨path, name⟩, afterKey⟩, _, read⟩ := Option.bind_eq_some_iff.mp read
          obtain ⟨changed, made, read⟩ := Option.bind_eq_some_iff.mp read
          obtain ⟨last, _, same⟩ := Option.bind_eq_some_iff.mp read
          cases same
          obtain ⟨root, updated, rfl⟩ := Option.map_eq_some_iff.mp made
          exact Members.Bounded.define bounded updated
      · obtain ⟨⟨⟨⟨path, name⟩, value⟩, afterValue⟩, found, read⟩ :=
          Option.bind_eq_some_iff.mp read
        obtain ⟨changed, made, read⟩ := Option.bind_eq_some_iff.mp read
        obtain ⟨last, _, same⟩ := Option.bind_eq_some_iff.mp read
        cases same
        exact bounded.set (bounded_setting? (readsBounded_value? _) found) made

theorem Bounded.lines? (bounded : draft.Bounded) (read : draft.lines? text = some next) :
    next.Bounded := by
  induction size : text.length using Nat.strongRecOn generalizing text draft with
  | _ bound ih =>
      rw [Draft.lines?] at read
      split at read
      · cases read
        exact bounded
      · split at read
        · cases read
        · rename_i found
          split at read
          · rename_i shorter
            exact ih _ (size ▸ shorter) (bounded.line? found) read rfl
          · cases read

end Draft

end QueryJournal.Toml
