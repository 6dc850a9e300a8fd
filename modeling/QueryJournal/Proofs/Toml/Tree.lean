import Mathlib
import QueryJournal.Toml.Tree

namespace QueryJournal.Toml

open QueryJournal.Document

/-!
A table within the tables of a text that is being read. A context says where the table is; a change
of the table there changes nothing else, and a new table at its end is a context again.
-/

variable {name : String} {node : Node} {before members : Members} {path : List String}
  {change : Option Node → Option Node}

namespace Members

theorem update_new (fresh : name ∉ before.map Prod.fst) :
    before.update name change = (change none).map fun node => before ++ [(name, node)] := by
  induction before with
  | nil => rfl
  | cons member before ih =>
      simp only [List.map_cons, List.mem_cons, not_or] at fresh
      rw [update, if_neg (Ne.symm fresh.1), ih fresh.2, Option.map_map]
      rfl

theorem update_last (fresh : name ∉ before.map Prod.fst) :
    (before ++ [(name, node)]).update name change =
      (change (some node)).map fun node => before ++ [(name, node)] := by
  induction before with
  | nil => rw [List.nil_append, update, if_pos rfl]; rfl
  | cons member before ih =>
      simp only [List.map_cons, List.mem_cons, not_or] at fresh
      rw [List.cons_append, update, if_neg (Ne.symm fresh.1), ih fresh.2, Option.map_map]
      rfl

theorem descend_concat (made : Origin) (change : Origin → Members → Option Members)
    (origin : Origin) (path : List String) (name : String) (members : Members) :
    members.descend made change origin (path ++ [name]) =
      members.descend made (fun origin inner => inner.descend made change origin [name]) origin
        path := by
  induction path generalizing origin members with
  | nil => rfl
  | cons first path ih =>
      have deeper := fun origin => funext (ih origin)
      rw [List.cons_append, descend, descend]
      simp only [deeper]

/-- A setting of one part adds to the table itself. -/
theorem set_nil (name : String) (value : Value) (members : Members) :
    members.set [] name value = members.add name (.value value) :=
  rfl

theorem add_new (fresh : name ∉ before.map Prod.fst) :
    before.add name node = some (before ++ [(name, node)]) := by
  rw [add, update_new fresh, Option.map_some]

end Members

/-- The place of a table, as what the whole looks like for each content of the table: a change at
the path changes that content. -/
def Context (path : List String) (whole : Members → Members) : Prop :=
  ∀ change inner, (whole inner).within path change = (change inner).map whole

namespace Context

variable {whole : Members → Members}

theorem root : Context [] id := by
  intro change inner
  exact (Option.map_id_apply).symm

theorem table (context : Context path whole) (fresh : name ∉ before.map Prod.fst)
    (origin : Origin) :
    Context (path ++ [name]) fun inner => whole (before ++ [(name, .table origin inner)]) := by
  intro change inner
  -- A change of the new table is a change of the one it is in, of which the context speaks.
  have deeper := context
    (fun members => members.descend .implied (fun _ inner => change inner) .defined [name])
    (before ++ [(name, .table origin inner)])
  rw [Members.within, Members.descend_concat]
  refine deeper.trans ?_
  rw [Members.descend, Members.update_last fresh]
  simp only [reduceCtorEq, false_and, ↓reduceIte, Members.descend, Option.map_map]
  rfl

/-- A header of a name that is new makes an empty table. -/
theorem define (context : Context path whole) (fresh : name ∉ before.map Prod.fst) :
    (whole before).define path name =
      some (whole (before ++ [(name, .table .defined [])])) := by
  refine (context (fun inner => inner.update name _) before).trans ?_
  rw [Members.update_new fresh]
  rfl

theorem set (context : Context path whole) (fresh : name ∉ before.map Prod.fst) (value : Value) :
    (whole before).within path (fun members => members.set [] name value) =
      some (whole (before ++ [(name, .value value)])) := by
  rw [context, Members.set_nil, Members.add_new fresh, Option.map_some]

end Context

theorem memberValues_append (front back : Members) :
    memberValues (front ++ back) = memberValues front ++ memberValues back := by
  induction front with
  | nil => rfl
  | cons member front ih =>
      obtain ⟨name, node⟩ := member
      rw [List.cons_append, memberValues, memberValues, ih, List.cons_append]

end QueryJournal.Toml
