import QueryJournal.Proofs.Toml.Lines
import QueryJournal.Proofs.Toml.Tree

namespace QueryJournal.Toml

open QueryJournal.Document
open QueryJournal.Text

/-!
Reading a text undoes writing it. The tables of a table come back after its other members, since the
text holds them in sections after its own, and members that are not written do not come back.
-/

variable {room : Nat} {path : List String} {name : String} {value : Value}
  {members settings : List (String × Value)} {before : Members} {whole : Members → Members}
  {draft : Draft}

/-- The members of a table that are written in its own section. -/
def settingsOf (members : List (String × Value)) : List (String × Value) :=
  (members.filter fun member => isWritten member.2).filter fun member => !isTable member.2

/-- The section of a table itself. -/
def sectionOf (path : List String) (members : List (String × Value)) : Section :=
  { path
    isEmpty := (members.filter fun member => isWritten member.2).isEmpty
    settings := settingsOf members }

theorem sections_eq (path : List String) (members : List (String × Value)) :
    sections path members = sectionOf path members :: innerSections path members := by
  rw [sections, sectionOf, settingsOf]

/-- The tables of a table as they are read back. -/
def tablesOf : List (String × Value) → List (String × Value)
  | [] => []
  | (name, .table inner) :: rest =>
    (name, .table (settingsOf inner ++ tablesOf inner)) :: tablesOf rest
  | _ :: rest => tablesOf rest

/-- The members of a table as they are read back. -/
def arranged (members : List (String × Value)) : List (String × Value) :=
  settingsOf members ++ tablesOf members

theorem settingsOf_nil : settingsOf [] = [] :=
  rfl

theorem settingsOf_null (name : String) (rest : List (String × Value)) :
    settingsOf ((name, .null) :: rest) = settingsOf rest :=
  rfl

theorem settingsOf_table (name : String) (inner rest : List (String × Value)) :
    settingsOf ((name, .table inner) :: rest) = settingsOf rest :=
  rfl

theorem tablesOf_nil : tablesOf [] = [] := by
  rw [tablesOf]

theorem tablesOf_table (name : String) (inner rest : List (String × Value)) :
    tablesOf ((name, .table inner) :: rest) = (name, .table (arranged inner)) :: tablesOf rest := by
  rw [tablesOf, arranged]

theorem tablesOf_of_plain (plain : isTable value = false) (name : String)
    (rest : List (String × Value)) : tablesOf ((name, value) :: rest) = tablesOf rest := by
  rw [tablesOf]
  rintro _ inner ⟨⟩
  cases plain

def settingNodes (settings : List (String × Value)) : Members :=
  settings.map fun (name, value) => (name, .value value)

def tableNodes : List (String × Value) → Members
  | [] => []
  | (name, .table inner) :: rest =>
    (name, .table .defined (settingNodes (settingsOf inner) ++ tableNodes inner)) ::
      tableNodes rest
  | _ :: rest => tableNodes rest

theorem memberValues_settingNodes (settings : List (String × Value)) :
    memberValues (settingNodes settings) = settings := by
  induction settings with
  | nil => rfl
  | cons setting settings ih =>
      rw [settingNodes, List.map_cons, memberValues, Node.toValue, ← settingNodes, ih]

theorem memberValues_tableNodes (members : List (String × Value)) :
    memberValues (tableNodes members) = tablesOf members := by
  induction members using tableNodes.induct with
  | case1 => rw [tableNodes, memberValues, tablesOf]
  | case2 name inner rest innerIh restIh =>
      rw [tableNodes, memberValues, Node.toValue, memberValues_append, memberValues_settingNodes,
        innerIh, restIh, tablesOf]
  | case3 member rest other ih => rw [tableNodes, tablesOf, ih] <;> exact other

/-- What can be a member of a table that is written in sections: nothing, a value on the line of
its setting, or a table with a header of its own. A header is written for a table that has a
setting and for one that is empty. -/
inductive Sectioned : Nat → Value → Prop
  | null (room : Nat) : Sectioned room .null
  | inline (room : Nat) {value : Value} (inline : Inline (nestingLimit - 1) value) :
      Sectioned room value
  | table {room : Nat} {members : List (String × Value)} (distinct : (members.map Prod.fst).Nodup)
      (header : settingsOf members ≠ [] ∨ (members.filter fun member => isWritten member.2) = [])
      (each : ∀ member ∈ members, Sectioned room member.2) : Sectioned (room + 1) (.table members)

theorem Inline.isPlain {depth : Nat} (inline : Inline depth value) :
    isWritten value = true ∧ isTable value = false := by
  cases inline <;> exact ⟨rfl, rfl⟩

/-- A table without tables is read back as it was written. -/
theorem arranged_of_plain
    (plain : ∀ member ∈ members, isWritten member.2 = true ∧ isTable member.2 = false) :
    arranged members = members := by
  have settings : settingsOf members = members := by
    rw [settingsOf, List.filter_filter, List.filter_eq_self]
    intro member among
    simp [plain member among]
  have tables : tablesOf members = [] := by
    clear settings
    induction members with
    | nil => exact tablesOf_nil
    | cons member members ih =>
        rw [tablesOf_of_plain (plain member List.mem_cons_self).2]
        exact ih fun other among => plain other (List.mem_cons_of_mem _ among)
  rw [arranged, settings, tables, List.append_nil]

/-- A table without tables, of which everything is written. -/
def IsPlainTable (value : Value) : Prop :=
  ∃ members, value = .table members ∧ (members.map Prod.fst).Nodup ∧
    ∀ member ∈ members, Inline (nestingLimit - 1) member.2

theorem IsPlainTable.sectioned (plain : IsPlainTable value) (room : Nat) :
    Sectioned (room + 1) value := by
  obtain ⟨members, rfl, distinct, each⟩ := plain
  refine .table distinct ?_ fun member among => .inline room (each member among)
  cases members with
  | nil => exact .inr rfl
  | cons member members =>
      have shown := (each member List.mem_cons_self).isPlain
      refine .inl (List.ne_nil_of_mem (a := member) ?_)
      simp [settingsOf, shown]

theorem IsPlainTable.tablesOf_cons (plain : IsPlainTable value) (name : String)
    (rest : List (String × Value)) :
    tablesOf ((name, value) :: rest) = (name, value) :: tablesOf rest := by
  obtain ⟨members, rfl, _, each⟩ := plain
  rw [tablesOf_table, arranged_of_plain fun member among => (each member among).isPlain]

theorem IsPlainTable.settingsOf_cons (plain : IsPlainTable value) (name : String)
    (rest : List (String × Value)) : settingsOf ((name, value) :: rest) = settingsOf rest := by
  obtain ⟨members, rfl, _⟩ := plain
  rfl

theorem Inline.settingsOf_cons {depth : Nat} (inline : Inline depth value) (name : String)
    (rest : List (String × Value)) :
    settingsOf ((name, value) :: rest) = (name, value) :: settingsOf rest := by
  cases inline <;> rfl

theorem Inline.tablesOf_cons {depth : Nat} (inline : Inline depth value) (name : String)
    (rest : List (String × Value)) : tablesOf ((name, value) :: rest) = tablesOf rest :=
  tablesOf_of_plain inline.isPlain.2 name rest

theorem tablesOf_null (name : String) (rest : List (String × Value)) :
    tablesOf ((name, .null) :: rest) = tablesOf rest :=
  tablesOf_of_plain rfl name rest

theorem Sectioned.isSettable (sectioned : Sectioned room value) (written : isWritten value = true)
    (plain : isTable value = false) : IsSettable value := by
  cases sectioned with
  | null => cases written
  | inline _ inline => exact inline.reads
  | table => cases plain

theorem settable_settingsOf (each : ∀ member ∈ members, Sectioned room member.2) :
    ∀ setting ∈ settingsOf members, IsSettable setting.2 := by
  intro setting member
  simp only [settingsOf, List.mem_filter, Bool.not_eq_true'] at member
  exact (each setting member.1.1).isSettable member.1.2 member.2

theorem settingsOf_sublist (members : List (String × Value)) :
    (settingsOf members).Sublist members :=
  List.filter_sublist.trans List.filter_sublist

theorem names_settingNodes (settings : List (String × Value)) :
    (settingNodes settings).map Prod.fst = settings.map Prod.fst := by
  rw [settingNodes, List.map_map]
  rfl

/-- Settings with new names come last in the table to which they belong. -/
theorem setAll_new (before : Members) (context : Context path whole) (place : draft.place = path)
    (root : draft.root = whole before) (distinct : (settings.map Prod.fst).Nodup)
    (fresh : ∀ name ∈ settings.map Prod.fst, name ∉ before.map Prod.fst) :
    draft.setAll settings =
      some { root := whole (before ++ settingNodes settings), place := path } := by
  induction settings generalizing draft before with
  | nil =>
      rw [settingNodes, List.map_nil, List.append_nil, ← root, ← place]
      rfl
  | cons setting settings ih =>
      obtain ⟨name, value⟩ := setting
      rw [List.map_cons, List.nodup_cons] at distinct
      have first : draft.set [] name value =
          some { root := whole (before ++ [(name, .value value)]), place := path } := by
        rw [Draft.set, place, root, context.set (fresh name List.mem_cons_self), Option.map_some]
      have others : ∀ other ∈ settings.map Prod.fst,
          other ∉ (before ++ [(name, Node.value value)]).map Prod.fst := by
        intro other member
        rw [List.map_append, List.mem_append, not_or]
        refine ⟨fresh other (List.mem_cons_of_mem name member), ?_⟩
        rw [List.map_singleton, List.mem_singleton]
        rintro rfl
        exact distinct.1 member
      rw [Draft.setAll, List.foldlM_cons, first]
      refine (ih _ rfl rfl distinct.2 others).trans ?_
      rw [List.append_assoc]
      rfl

/-- The sections of a table that is to have a new name take that table in as the last one. -/
def TakesTable (room : Nat) (value : Value) : Prop :=
  ∀ inner, value = .table inner →
    ∀ {path : List String} {name : String} {whole : Members → Members} {before : Members}
      {draft : Draft}, Context path whole → name ∉ before.map Prod.fst →
      draft.root = whole before → path.length + room < nestingLimit →
      ∃ last, Takes draft ((sections (path ++ [name]) inner).filter Section.isShown) last ∧
        last.root = whole (before ++ tableNodes [(name, value)])

theorem innerSections_of_plain (plain : isTable value = false) :
    innerSections path ((name, value) :: members) = innerSections path members := by
  rw [innerSections]
  rintro inner ⟨⟩
  cases plain

theorem tableNodes_of_plain (plain : isTable value = false) :
    tableNodes ((name, value) :: members) = tableNodes members := by
  rw [tableNodes]
  rintro _ inner ⟨⟩
  cases plain

theorem takes_innerSections (draft : Draft) (context : Context path whole)
    (each : ∀ member ∈ members, TakesTable room member.2)
    (distinct : (members.map Prod.fst).Nodup)
    (fresh : ∀ member ∈ members, isTable member.2 = true → member.1 ∉ before.map Prod.fst)
    (root : draft.root = whole before) (short : path.length + room < nestingLimit) :
    ∃ last, Takes draft ((innerSections path members).filter Section.isShown) last ∧
      last.root = whole (before ++ tableNodes members) := by
  induction members generalizing draft before with
  | nil =>
      rw [innerSections, tableNodes, List.append_nil]
      exact ⟨draft, .nil draft, root⟩
  | cons member members ih =>
      obtain ⟨name, value⟩ := member
      rw [List.map_cons, List.nodup_cons] at distinct
      have later : ∀ member ∈ members, TakesTable room member.2 := fun other among =>
        each other (List.mem_cons_of_mem _ among)
      have new : ∀ member ∈ members, isTable member.2 = true → member.1 ∉ before.map Prod.fst :=
        fun other among => fresh other (List.mem_cons_of_mem _ among)
      cases value with
      | table inner =>
          obtain ⟨middle, first, between⟩ := each _ List.mem_cons_self inner rfl context
            (fresh _ List.mem_cons_self rfl) root short
          -- The table that was taken in comes last now, and no later one has its name.
          have free : ∀ member ∈ members, isTable member.2 = true →
              member.1 ∉ (before ++ tableNodes [(name, .table inner)]).map Prod.fst := by
            intro other among isTable
            rw [List.map_append, List.mem_append, not_or]
            refine ⟨new other among isTable, ?_⟩
            simp only [tableNodes, List.map_cons, List.map_nil, List.mem_singleton]
            rintro rfl
            exact distinct.1 (List.mem_map.mpr ⟨other, among, rfl⟩)
          obtain ⟨last, others, final⟩ := ih middle later distinct.2 free between
          refine ⟨last, ?_, ?_⟩
          · rw [innerSections, List.filter_append]
            exact first.append others
          · rw [final, List.append_assoc]
            simp only [tableNodes, List.cons_append, List.nil_append]
      | _ =>
          rw [innerSections_of_plain rfl, tableNodes_of_plain rfl]
          exact ih draft later distinct.2 new root

/-- No table has the name of a setting beside it. -/
theorem table_not_setting (distinct : (members.map Prod.fst).Nodup) :
    ∀ member ∈ members, isTable member.2 = true →
      member.1 ∉ (settingNodes (settingsOf members)).map Prod.fst := by
  intro member among table
  rw [names_settingNodes]
  intro named
  obtain ⟨setting, chosen, same⟩ := List.mem_map.mp named
  have equal := List.inj_on_of_nodup_map distinct ((settingsOf_sublist members).subset chosen)
    among same
  simp only [settingsOf, List.mem_filter, Bool.not_eq_true'] at chosen
  rw [equal, table] at chosen
  cases chosen.2

theorem Sectioned.takesTable (sectioned : Sectioned room value) : TakesTable room value := by
  induction sectioned with
  | null =>
      intro inner same
      cases same
  | inline room inline =>
      rintro inner rfl
      cases inline
  | @table room members distinct header each ih =>
      rintro _ ⟨rfl⟩ path name whole before draft context fresh root short
      have place := context.table fresh .defined
      have depth : (path ++ [name]).length + room < nestingLimit := by
        rw [List.length_append, List.length_singleton]
        omega
      have names : ((settingsOf members).map Prod.fst).Nodup :=
        distinct.sublist ((settingsOf_sublist members).map Prod.fst)
      let middle : Draft :=
        { root := whole (before ++ [(name, .table .defined (settingNodes (settingsOf members)))])
          place := path ++ [name] }
      have entered : draft.enter (sectionOf (path ++ [name]) members) = some middle := by
        simp only [Draft.enter, sectionOf, List.getLast?_concat, List.dropLast_concat, Draft.define,
          root, context.define fresh, Option.map_some, Option.bind_some]
        exact setAll_new [] place rfl rfl names (fun _ _ => List.not_mem_nil)
      obtain ⟨last, others, final⟩ := takes_innerSections middle place ih distinct
        (table_not_setting distinct) rfl depth
      have shown : (sectionOf (path ++ [name]) members).isShown = true := by
        rcases header with settings | empty
        · simp [Section.isShown, sectionOf, settings]
        · simp [Section.isShown, sectionOf, empty]
      refine ⟨last, ?_, ?_⟩
      · rw [sections_eq, List.filter_cons_of_pos shown]
        exact .cons ⟨Nat.lt_of_le_of_lt (Nat.le_add_right _ room) depth,
          settable_settingsOf each⟩ entered others
      · rw [final]
        simp only [tableNodes]

/-- A table that can be written as a text: its members have different names and can be read. -/
structure IsDocument (room : Nat) (members : List (String × Value)) : Prop where
  shallow : room < nestingLimit
  distinct : (members.map Prod.fst).Nodup
  each : ∀ member ∈ members, Sectioned room member.2

theorem IsDocument.takes (document : IsDocument room members) :
    ∃ last, Takes Draft.start ((sections [] members).filter Section.isShown) last ∧
      last.root = settingNodes (settingsOf members) ++ tableNodes members := by
  obtain ⟨shallow, distinct, each⟩ := document
  have names : ((settingsOf members).map Prod.fst).Nodup :=
    distinct.sublist ((settingsOf_sublist members).map Prod.fst)
  have entered : Draft.start.setAll (settingsOf members) =
      some { root := settingNodes (settingsOf members), place := [] } :=
    setAll_new [] Context.root rfl rfl names (fun _ _ => List.not_mem_nil)
  obtain ⟨last, others, final⟩ := takes_innerSections
    { root := settingNodes (settingsOf members), place := [] } Context.root
    (fun member among => (each member among).takesTable) distinct (table_not_setting distinct) rfl
    (by simpa using shallow)
  refine ⟨last, ?_, final⟩
  rw [sections_eq]
  by_cases settings : settingsOf members = []
  · have hidden : ¬(sectionOf [] members).isShown = true := by
      simp [Section.isShown, sectionOf, settings]
    rw [List.filter_cons_of_neg hidden]
    rw [settings] at others
    exact others
  · have shown : (sectionOf [] members).isShown = true := by
      simp [Section.isShown, sectionOf, settings]
    have short : ([] : List String).length < nestingLimit := by decide
    rw [List.filter_cons_of_pos shown]
    exact .cons ⟨short, settable_settingsOf each⟩ entered others

/-- No text starts with a byte order mark. -/
theorem skip?_render (members : List (String × Value)) :
    skip? '\uFEFF' (render members) = none := by
  have start : ∀ part : Section, part.isShown = true →
      ∃ c more, part.text = c :: more ∧ c ≠ '\uFEFF' := by
    rintro ⟨path, isEmpty, settings⟩ shown
    cases path with
    | cons name path => exact ⟨'[', _, rfl, by decide⟩
    | nil =>
        cases settings with
        | nil => simp [Section.isShown] at shown
        | cons setting settings =>
            obtain ⟨c, more, written, first⟩ := head_writtenKey setting.1.toList
            have other : c ≠ '\uFEFF' := by
              rintro rfl
              exact absurd first (by decide)
            simp only [Section.text, List.isEmpty_nil, ↓reduceIte, List.nil_append,
              List.flatMap_cons, settingLine, written, List.cons_append]
            exact ⟨c, _, rfl, other⟩
  rw [render]
  cases shown : (sections [] members).filter Section.isShown with
  | nil => rfl
  | cons part parts =>
      have among : part ∈ (sections [] members).filter Section.isShown := by
        rw [shown]
        exact List.mem_cons_self
      obtain ⟨c, more, written, other⟩ := start part (List.mem_filter.mp among).2
      cases parts with
      | nil =>
          rw [List.map_singleton, List.intercalate_singleton, written]
          exact skip?_of_ne other
      | cons second parts =>
          rw [List.map_cons, List.map_cons, List.intercalate_cons_cons, written]
          exact skip?_of_ne other

/-- The reader undoes the printer, up to the order of settings and tables. -/
theorem parse?_render (document : IsDocument room members) :
    parse? (render members) = some (.table (arranged members)) := by
  obtain ⟨last, takes, root⟩ := document.takes
  have read := takes.lines?
  rw [parse?, skip?_render, Option.getD_none, render, read, Option.map_some, root,
    memberValues_append, memberValues_settingNodes, memberValues_tableNodes, arranged]

end QueryJournal.Toml
