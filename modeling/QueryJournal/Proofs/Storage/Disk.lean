import QueryJournal.Storage.Disk

namespace QueryJournal.Storage

open QueryJournal.Utf8 (Bytes)

/-!
What each operation on the directory does to what its names stand for. Operations reach a file by
its identity, so a file that another identity was given to is left as it is.
-/

variable {folder : Folder} {disk after : Disk} {obstacles : Obstacles} {name other : String}
  {identity : Nat} {change : Bytes → Bytes} {content : Bytes} {failure : Failure}

/-- What a name stands for after the file of an identity was changed. -/
def Node.modified (identity : Nat) (change : Bytes → Bytes) : Node → Node
  | .file owner content => .file owner (if owner = identity then change content else content)
  | .directory => .directory

namespace Folder

theorem find?_modify (folder : Folder) (identity : Nat) (change : Bytes → Bytes) (name : String) :
    (folder.modify identity change).find? name =
      (folder.find? name).map (Node.modified identity change) := by
  induction folder with
  | nil => rfl
  | cons entry rest ih =>
      obtain ⟨found, node⟩ := entry
      have head : (Folder.modify ((found, node) :: rest) identity change) =
          (found, node.modified identity change) :: Folder.modify rest identity change := by
        cases node with
        | directory => rfl
        | file owner content =>
            by_cases same : owner = identity <;> simp [Folder.modify, Node.modified, same]
      rw [head]
      simp only [Folder.find?, List.lookup_cons] at ih ⊢
      cases name == found with
      | true => rfl
      | false => exact ih

theorem find?_erase_ne (folder : Folder) (different : other ≠ name) :
    (folder.erase name).find? other = folder.find? other := by
  induction folder with
  | nil => rfl
  | cons entry rest ih =>
      obtain ⟨found, node⟩ := entry
      simp only [Folder.find?, Folder.erase] at ih ⊢
      by_cases removed : found = name
      · have apart : (other == found) = false := beq_false_of_ne (removed ▸ different)
        rw [List.filter_cons_of_neg (by simpa using removed), ih, List.lookup_cons, apart]
      · rw [List.filter_cons_of_pos (by simpa using removed), List.lookup_cons, List.lookup_cons, ih]

theorem find?_erase_self (folder : Folder) (name : String) :
    (folder.erase name).find? name = none := by
  rw [Folder.find?, Folder.erase, List.lookup_eq_none_iff]
  intro entry member
  have kept := (List.mem_filter.mp member).2
  have apart : entry.1 ≠ name := by simpa using kept
  simpa using apart.symm

theorem mem_names_iff : name ∈ folder.names ↔ ∃ node, folder.find? name = some node := by
  induction folder with
  | nil => simp [names, find?]
  | cons entry rest ih =>
      obtain ⟨found, node⟩ := entry
      by_cases same : name = found
      · simp [names, find?, same]
      · have apart : (name == found) = false := beq_false_of_ne same
        simpa [names, find?, List.lookup_cons, apart, same] using ih

end Folder

namespace Disk

theorem find?_modify (disk : Disk) (identity : Nat) (change : Bytes → Bytes) (name : String) :
    (disk.modify identity change).find? name =
      (disk.find? name).map (Node.modified identity change) := by
  cases place : disk.place with
  | missing => simp only [modify, find?, place, Option.map_none]
  | occupied => simp only [modify, find?, place, Option.map_none]
  | folder nodes => simp only [modify, find?, place, Folder.find?_modify]

theorem find?_modify_self (found : disk.find? name = some (.file identity content)) :
    (disk.modify identity change).find? name = some (.file identity (change content)) := by
  rw [find?_modify, found]
  simp only [Option.map_some, Node.modified, ↓reduceIte]

theorem find?_modify_other
    (apart : ∀ content, disk.find? name ≠ some (.file identity content)) :
    (disk.modify identity change).find? name = disk.find? name := by
  rw [find?_modify]
  cases found : disk.find? name with
  | none => rfl
  | some node =>
      cases node with
      | directory => rfl
      | file owner content =>
          have different : owner ≠ identity := by
            rintro rfl
            exact apart content found
          simp only [Option.map_some, Node.modified, different, ↓reduceIte]

/-- A directory that is missing holds nothing, as one that was just made. -/
theorem find?_of_folder? {nodes : Folder} (place : disk.folder? = some nodes) (name : String) :
    disk.find? name = nodes.find? name := by
  cases found : disk.place <;> simp only [folder?, found] at place <;> cases place
  · simp only [find?, found]
    rfl
  · simp only [find?, found]

/-- A file is made under a name that was free, with an identity that no file had. -/
theorem create_ok (made : disk.create obstacles name content = (.ok identity, after)) :
    identity = disk.nextIdentity ∧ after.nextIdentity = disk.nextIdentity + 1 ∧
      disk.find? name = none ∧ after.find? name = some (.file identity content) ∧
        ∀ other, other ≠ name → after.find? other = disk.find? other := by
  simp only [create] at made
  cases place : disk.folder? with
  | none => simp [place] at made
  | some nodes =>
      simp only [place] at made
      split at made
      · simp at made
      · cases taken : Folder.find? nodes name with
        | some node => simp [taken] at made
        | none =>
            simp only [taken, Prod.mk.injEq, Except.ok.injEq] at made
            obtain ⟨rfl, rfl⟩ := made
            have before := find?_of_folder? place
            have later : ∀ other node,
                Folder.find? (nodes ++ [(name, node)]) other =
                  (Folder.find? nodes other).or (if other = name then some node else none) := by
              intro other node
              simp only [Folder.find?, List.lookup_append, List.lookup_cons, List.lookup_nil]
              by_cases same : other = name
              · simp [same]
              · simp [same, beq_false_of_ne same]
            refine ⟨rfl, rfl, (before name).trans taken, ?_, ?_⟩
            · simp only [find?, later, taken, ↓reduceIte, Option.none_or]
            · intro other different
              rw [before]
              simp only [find?, later, different, ↓reduceIte, Option.or_none]

/-- A file that cannot be made changes nothing but that the directory may be there now. -/
theorem create_error (refused : disk.create obstacles name content = (.error failure, after)) :
    after.nextIdentity = disk.nextIdentity ∧ ∀ other, after.find? other = disk.find? other := by
  simp only [create] at refused
  cases place : disk.folder? with
  | none =>
      simp only [place, Prod.mk.injEq] at refused
      rw [← refused.2]
      exact ⟨rfl, fun _ => rfl⟩
  | some nodes =>
      have same : ∀ other, ({ disk with place := .folder nodes } : Disk).find? other =
          disk.find? other := fun other => (find?_of_folder? place other).symm
      simp only [place] at refused
      split at refused
      · simp only [Prod.mk.injEq] at refused
        rw [← refused.2]
        exact ⟨rfl, same⟩
      · cases taken : Folder.find? nodes name with
        | none => simp [taken] at refused
        | some node =>
            simp only [taken, Prod.mk.injEq] at refused
            rw [← refused.2]
            exact ⟨rfl, same⟩

@[simp] theorem nextIdentity_remove (obstacles : Obstacles) (disk : Disk) (name : String) :
    (disk.remove obstacles name).2.nextIdentity = disk.nextIdentity := by
  simp only [remove]
  split
  · rfl
  · rfl
  · split
    · rfl
    · rfl
    · split <;> rfl

theorem find?_remove_ne (obstacles : Obstacles) (disk : Disk) (different : other ≠ name) :
    (disk.remove obstacles name).2.find? other = disk.find? other := by
  simp only [remove]
  split
  · rfl
  · rfl
  · rename_i nodes place
    split
    · rfl
    · rfl
    · split
      · rfl
      · simp only [find?, place, Folder.find?_erase_ne nodes different]

/-- A name that stands for a file is free once it is removed; what cannot be removed stays as it
is. -/
theorem find?_remove_self (obstacles : Obstacles) (disk : Disk) (name : String) :
    (disk.remove obstacles name).2.find? name = disk.find? name ∨
      (disk.remove obstacles name).2.find? name = none := by
  simp only [remove]
  split
  · exact .inl rfl
  · exact .inl rfl
  · rename_i nodes place
    split
    · exact .inl rfl
    · exact .inl rfl
    · split
      · exact .inl rfl
      · exact .inr (by simp only [find?, Folder.find?_erase_self])

/-- Without resistance no file is left under a name that was removed. -/
theorem find?_remove_file (allowed : obstacles.refusesRemoval name = false) (disk : Disk) :
    (disk.remove obstacles name).2.find? name ≠ some (.file identity content) := by
  simp only [remove]
  split
  · rename_i place
    simp [find?, place]
  · rename_i place
    simp [find?, place]
  · rename_i nodes place
    split
    · rename_i free
      simp [find?, place, free]
    · rename_i taken
      simp [find?, place, taken]
    · rw [if_neg (by simp [allowed])]
      simp only [find?, Folder.find?_erase_self]
      simp

def Numbered (disk : Disk) : Prop :=
  ∀ name identity content, disk.find? name = some (.file identity content) →
    identity < disk.nextIdentity

/-!
### Writing into a content
-/

theorem overwritten_append (kept bytes rest : Bytes) :
    overwritten kept.length bytes (kept ++ rest) = kept ++ (bytes ++ rest.drop bytes.length) := by
  rw [overwritten]
  split
  · rename_i none
    rw [List.isEmpty_iff.mp none]
    simp
  · simp [resized, List.drop_append]

theorem resized_append (kept rest : Bytes) : resized kept.length (kept ++ rest) = kept := by
  simp [resized]

theorem take_overwritten {length position : Nat} (before : length ≤ position)
    (inside : length ≤ content.length) (bytes : Bytes) :
    (overwritten position bytes content).take length = content.take length := by
  rw [overwritten]
  split
  · rfl
  · have kept : (content.take position).take length = content.take length := by
      rw [List.take_take, Nat.min_eq_left before]
    have long : length ≤ (content.take position).length := by
      rw [List.length_take]
      omega
    rw [resized, List.append_assoc, List.append_assoc, List.take_append_of_le_length long, kept]

theorem take_resized {length position : Nat} (before : length ≤ position)
    (inside : length ≤ content.length) :
    (resized position content).take length = content.take length := by
  have kept : (content.take position).take length = content.take length := by
    rw [List.take_take, Nat.min_eq_left before]
  have long : length ≤ (content.take position).length := by
    rw [List.length_take]
    omega
  rw [resized, List.take_append_of_le_length long, kept]

end Disk

end QueryJournal.Storage
