import QueryJournal.Proofs.Storage.Disk

namespace QueryJournal.Storage

open QueryJournal.Utf8 (Bytes)

/-!
The names in the directory of a log, and what becomes of them. Writing to a file changes none,
making one adds its name behind the others, and removing one takes a name away.
-/

variable {disk after : Disk} {obstacles : Obstacles} {name : String} {content : Bytes}
  {identity : Nat} {failure : Failure}

theorem Folder.names_modify (folder : Folder) (identity : Nat) (change : Bytes → Bytes) :
    (folder.modify identity change).names = folder.names := by
  rw [Folder.names, Folder.modify, List.map_map]
  refine List.map_congr_left fun entry _ => ?_
  simp only [Function.comp_apply]
  split
  · split <;> rfl
  · rfl

namespace Disk

/-- The names in the directory. One that is missing has none. -/
def names (disk : Disk) : List String :=
  (disk.folder?.getD []).names

def IsUsable (disk : Disk) : Prop :=
  disk.folder?.isSome = true

theorem list_of_isUsable (usable : disk.IsUsable) : disk.list = .ok disk.names := by
  cases place : disk.place with
  | missing => simp [list, names, folder?, place, Folder.names]
  | occupied => simp [IsUsable, folder?, place] at usable
  | folder nodes => simp [list, names, folder?, place]

theorem isUsable_of_list {names : List String} (listed : disk.list = .ok names) :
    disk.IsUsable := by
  cases place : disk.place with
  | missing => simp [IsUsable, folder?, place]
  | occupied => simp [list, place] at listed
  | folder nodes => simp [IsUsable, folder?, place]

theorem mem_names_iff : name ∈ disk.names ↔ ∃ node, disk.find? name = some node := by
  cases place : disk.place with
  | missing => simp [names, folder?, find?, place, Folder.names]
  | occupied => simp [names, folder?, find?, place, Folder.names]
  | folder nodes => simp [names, folder?, find?, place, Folder.mem_names_iff]

/-- Where there are names there is a directory. -/
theorem isUsable_of_mem_names {name : String} (there : name ∈ disk.names) : disk.IsUsable := by
  rw [names] at there
  cases place : disk.folder? with
  | none => simp [place, Folder.names] at there
  | some nodes => simp [IsUsable, place]

theorem folder?_modify (disk : Disk) (identity : Nat) (change : Bytes → Bytes) :
    (disk.modify identity change).folder? =
      disk.folder?.map fun nodes => nodes.modify identity change := by
  cases place : disk.place <;> simp [modify, folder?, place, Folder.modify]

@[simp] theorem names_modify (disk : Disk) (identity : Nat) (change : Bytes → Bytes) :
    (disk.modify identity change).names = disk.names := by
  rw [names, folder?_modify, names]
  cases disk.folder? with
  | none => rfl
  | some nodes => exact nodes.names_modify identity change

theorem IsUsable.modify (usable : disk.IsUsable) (identity : Nat) (change : Bytes → Bytes) :
    (disk.modify identity change).IsUsable := by
  rw [IsUsable, folder?_modify, Option.isSome_map]
  exact usable

theorem folder?_create_ok (made : disk.create obstacles name content = (.ok identity, after)) :
    ∃ nodes, disk.folder? = some nodes ∧
      after.folder? = some (nodes ++ [(name, .file identity content)]) := by
  simp only [create] at made
  cases place : disk.folder? with
  | none => simp [place] at made
  | some nodes =>
      simp only [place] at made
      split at made
      · simp at made
      · split at made
        · simp at made
        · simp only [Prod.mk.injEq, Except.ok.injEq] at made
          obtain ⟨rfl, rfl⟩ := made
          exact ⟨nodes, rfl, rfl⟩

theorem folder?_create_error
    (refused : disk.create obstacles name content = (.error failure, after)) :
    after.folder? = disk.folder? := by
  simp only [create] at refused
  cases place : disk.folder? with
  | none =>
      simp only [place, Prod.mk.injEq] at refused
      rw [← refused.2, place]
  | some nodes =>
      simp only [place] at refused
      split at refused
      · simp only [Prod.mk.injEq] at refused
        rw [← refused.2]
        rfl
      · split at refused
        · simp only [Prod.mk.injEq] at refused
          rw [← refused.2]
          rfl
        · simp at refused

theorem folder?_remove (obstacles : Obstacles) (disk : Disk) (name : String) :
    ∃ stays : String × Node → Bool,
      (disk.remove obstacles name).2.folder? = disk.folder?.map (List.filter stays) := by
  have all : disk.folder? = disk.folder?.map (List.filter fun _ => true) := by
    cases disk.folder? with
    | none => rfl
    | some nodes => exact congrArg some (List.filter_eq_self.mpr fun _ _ => rfl).symm
  simp only [remove]
  split
  · exact ⟨_, all⟩
  · exact ⟨_, all⟩
  · rename_i nodes place
    split
    · exact ⟨_, all⟩
    · exact ⟨_, all⟩
    · split
      · exact ⟨_, all⟩
      · exact ⟨fun entry => entry.1 != name, by simp [folder?, place, Folder.erase]⟩

theorem IsUsable.remove (usable : disk.IsUsable) (obstacles : Obstacles) (name : String) :
    (disk.remove obstacles name).2.IsUsable := by
  obtain ⟨stays, left⟩ := folder?_remove obstacles disk name
  rw [IsUsable, left, Option.isSome_map]
  exact usable

theorem names_remove (obstacles : Obstacles) (disk : Disk) (name : String) :
    (disk.remove obstacles name).2.names.Sublist disk.names := by
  obtain ⟨stays, left⟩ := folder?_remove obstacles disk name
  rw [names, left, names]
  cases disk.folder? with
  | none => exact List.Sublist.refl _
  | some nodes => exact (List.filter_sublist (p := stays)).map Prod.fst

theorem find?_of_find?_remove {other : String} {node : Node}
    (found : (disk.remove obstacles name).2.find? other = some node) :
    disk.find? other = some node := by
  by_cases same : other = name
  · rw [same] at found ⊢
    rcases find?_remove_self obstacles disk name with still | gone
    · rw [← still, found]
    · rw [gone] at found
      contradiction
  · rw [← find?_remove_ne obstacles disk same, found]

end Disk

end QueryJournal.Storage
