import QueryJournal.Document.Value

namespace QueryJournal.Document

/-!
Reading structures that were written as tables: the fields stand in the order of the schema, those
that are left out excepted.
-/

variable {α : Type} {names : List String} {members fields : Fields} {name : String}
  {read : Value → Option α} {write : α → Value}

/-- A table whose names are some of those of the schema, in its order, gives all its members. -/
theorem Value.fields?_table (dialect : Dialect) (distinct : names.Nodup)
    (order : (members.map Prod.fst).Sublist names) :
    (Value.table members).fields? dialect names = some members := by
  have known : members.filter (fun member => names.contains member.1) = members := by
    rw [List.filter_eq_self]
    intro member present
    simpa using order.subset (List.mem_map_of_mem present)
  simp only [Value.fields?, known]
  rw [if_pos (order.nodup distinct)]

theorem Value.exactFields?_table (distinct : names.Nodup) (same : members.map Prod.fst = names) :
    (Value.table members).exactFields? names = some members := by
  have known : members.all (fun member => names.contains member.1) = true := by
    rw [List.all_eq_true]
    intro member present
    simpa [← same] using ⟨member.2, present⟩
  simp only [Value.exactFields?, known]
  rw [if_pos ⟨same ▸ distinct, trivial⟩]

theorem Value.list?_map (items : List α) (inverse : ∀ item, read (write item) = some item) :
    (Value.list (items.map write)).list? read = some items := by
  rw [Value.list?]
  induction items with
  | nil => rfl
  | cons item items ih =>
      rw [List.map_cons, List.mapM_cons, inverse, ih]
      rfl

namespace Fields

theorem required_of_lookup {value : Value} (found : fields.lookup name = some value) :
    fields.required name read = read value := by
  rw [required, found, Option.bind_some]

theorem withDefault_of_lookup {value : Value} {default : α}
    (found : fields.lookup name = some value) :
    fields.withDefault name default read = read value := by
  rw [withDefault, found]

/-- A field that is left out where it holds nothing is read as what it holds. -/
theorem withDefault_optional {content : Option α} (found : fields.lookup name = content.map write)
    (inverse : ∀ item, read (write item) = some item) (given : ∀ item, write item ≠ .null) :
    fields.withDefault name none (Value.optional? read) = some content := by
  cases content with
  | none => rw [withDefault, found, Option.map_none]
  | some item =>
      have plain : Value.optional? read (write item) = (read (write item)).map some := by
        rw [Value.optional?]
        exact given item
      rw [withDefault_of_lookup found, plain, inverse, Option.map_some]

end Fields

end QueryJournal.Document
