import Mathlib
import QueryJournal.Logging.Config
import QueryJournal.Proofs.Document.Bounds
import QueryJournal.Proofs.Document.Value
import QueryJournal.Proofs.Toml.Sections

namespace QueryJournal.Logging

open QueryJournal.Document
open QueryJournal.Toml

/-!
The configuration of the output of events in a text of sections. A configuration that was read has
its targets in order, so a text of it has them in that order and reading puts each of them last.
-/

/-- Every target has one level, and the targets are in order. -/
def TargetLevels.IsOrdered (targets : TargetLevels) : Prop :=
  targets.Pairwise fun first second => first.1 < second.1

namespace TargetLevels

variable {targets : TargetLevels} {target level : String}

theorem mem_insert {entry : String × String} (among : entry ∈ insert target level targets) :
    entry.1 = target ∨ entry ∈ targets := by
  induction targets with
  | nil =>
      cases List.mem_singleton.mp among
      exact .inl rfl
  | cons first targets ih =>
      unfold insert at among
      split at among
      · rcases List.mem_cons.mp among with rfl | later
        · exact .inl rfl
        · exact .inr later
      · split at among
        · rcases List.mem_cons.mp among with rfl | later
          · exact .inl rfl
          · exact .inr (List.mem_cons_of_mem _ later)
        · rcases List.mem_cons.mp among with rfl | later
          · exact .inr List.mem_cons_self
          · exact (ih later).imp_right (List.mem_cons_of_mem _)

theorem IsOrdered.insert (ordered : targets.IsOrdered) (target level : String) :
    (insert target level targets).IsOrdered := by
  induction targets with
  | nil => exact List.pairwise_singleton _ _
  | cons first targets ih =>
      obtain ⟨least, others⟩ := List.pairwise_cons.mp ordered
      unfold TargetLevels.insert
      split
      case isTrue less =>
        refine List.pairwise_cons.mpr ⟨fun entry among => ?_, ordered⟩
        rcases List.mem_cons.mp among with rfl | later
        · exact less
        · exact lt_trans less (least entry later)
      case isFalse notLess =>
        split
        case isTrue same => exact List.pairwise_cons.mpr ⟨same ▸ least, others⟩
        case isFalse other =>
          refine List.pairwise_cons.mpr ⟨fun entry among => ?_, ih others⟩
          rcases mem_insert among with same | later
          · rw [same]
            exact lt_of_le_of_ne (not_lt.mp notLess) (Ne.symm other)
          · exact least entry later

/-- A level of a target that is greater than all others comes last. -/
theorem insert_greatest (greatest : ∀ entry ∈ targets, entry.1 < target) :
    TargetLevels.insert target level targets = targets ++ [(target, level)] := by
  induction targets with
  | nil => rfl
  | cons first targets ih =>
      have less := greatest first List.mem_cons_self
      rw [TargetLevels.insert, if_neg (lt_asymm less), if_neg (ne_of_gt less),
        ih fun entry among => greatest entry (List.mem_cons_of_mem _ among), List.cons_append]

theorem foldlM_ordered {before : TargetLevels} (ordered : (before ++ targets).IsOrdered) :
    (targets.map fun (target, level) => (target, Value.text level)).foldlM
      (fun targets (target, value) => value.text?.map fun level => insert target level targets)
      before = some (before ++ targets) := by
  induction targets generalizing before with
  | nil =>
      rw [List.append_nil]
      rfl
  | cons entry targets ih =>
      have greatest : ∀ earlier ∈ before, earlier.1 < entry.1 := fun earlier among =>
        (List.pairwise_append.mp ordered).2.2 earlier among entry List.mem_cons_self
      have next : (before ++ [entry] ++ targets).IsOrdered := by simpa using ordered
      have last : (before ++ [entry]) ++ targets = before ++ entry :: targets := by simp
      have read : (Value.text entry.2).text? = some entry.2 := rfl
      rw [List.map_cons, List.foldlM_cons]
      simp only [read, Option.map_some, insert_greatest greatest]
      exact (ih next).trans (by rw [last])

theorem ofValue?_toValue (ordered : targets.IsOrdered) : ofValue? targets.toValue = some targets :=
  foldlM_ordered ordered

theorem IsOrdered.nodup (ordered : targets.IsOrdered) : (targets.map Prod.fst).Nodup :=
  List.pairwise_map.mpr (ordered.imp fun less => ne_of_lt less)

end TargetLevels

theorem ConsoleOutput.ofValue?_toValue (console : ConsoleOutput) :
    ofValue? .toml console.toValue = some console := by
  rw [ofValue?, toValue, Value.fields?_table .toml (by decide) (by simp [fieldNames])]
  rfl

theorem FileOutput.ofValue?_toValue (file : FileOutput) :
    ofValue? .toml file.toValue = some file := by
  have rotation : Value.choice? .toml Rotation.named? (.text file.rotation.name) =
      some file.rotation := Rotation.named?_name file.rotation
  rw [ofValue?, toValue, Value.fields?_table .toml (by decide) (by simp [fieldNames])]
  simp [Fields.withDefault, List.lookup_cons, Value.text?, rotation]

theorem LineForm.ofValue?_toValue (lines : LineForm) :
    ofValue? .toml lines.toValue = some lines := by
  rw [ofValue?, toValue, Value.fields?_table .toml (by decide) (by simp [fieldNames])]
  rfl

theorem ConsoleOutput.isPlainTable (console : ConsoleOutput) : IsPlainTable console.toValue := by
  refine ⟨_, rfl, by simp, fun member among => ?_⟩
  simp only [List.mem_cons, List.not_mem_nil, or_false] at among
  rcases among with rfl | rfl | rfl | rfl <;> exact .bool _ _

theorem FileOutput.isPlainTable (file : FileOutput) : IsPlainTable file.toValue := by
  refine ⟨_, rfl, by simp, fun member among => ?_⟩
  simp only [List.mem_cons, List.not_mem_nil, or_false] at among
  rcases among with rfl | rfl | rfl <;> exact .text _ _

theorem LineForm.isPlainTable (lines : LineForm) : IsPlainTable lines.toValue := by
  refine ⟨_, rfl, by simp, fun member among => ?_⟩
  simp only [List.mem_cons, List.not_mem_nil, or_false] at among
  rcases among with rfl | rfl | rfl <;> exact .bool _ _

theorem TargetLevels.IsOrdered.isPlainTable {targets : TargetLevels} (ordered : targets.IsOrdered) :
    IsPlainTable targets.toValue := by
  refine ⟨_, rfl, ?_, fun member among => ?_⟩
  · rw [List.map_map]
    exact ordered.nodup
  · obtain ⟨entry, _, rfl⟩ := List.mem_map.mp among
    exact .text _ _

namespace Config

/-- The fields of a configuration as they are read back. -/
def written (config : Config) : Fields :=
  [("default_level", .text config.level), ("console", config.console.toValue)] ++
    (config.file.map fun file => ("file", file.toValue)).toList ++
    [("jsonl", config.lines.toValue), ("targets", config.targets.toValue)]

theorem ofValue?_written {config : Config} (ordered : config.targets.IsOrdered) :
    ofValue? .toml (.table config.written) = some config := by
  have order : (config.written.map Prod.fst).Sublist fieldNames := by
    cases file : config.file <;> simp [written, file, fieldNames]
  have level : config.written.lookup "default_level" = some (.text config.level) := rfl
  have console : config.written.lookup "console" = some config.console.toValue := rfl
  have file : config.written.lookup "file" = config.file.map FileOutput.toValue := by
    cases file : config.file <;> simp [written, file, List.lookup_cons]
  have lines : config.written.lookup "jsonl" = some config.lines.toValue := by
    cases file : config.file <;> simp [written, file, List.lookup_cons]
  have targets : config.written.lookup "targets" = some config.targets.toValue := by
    cases file : config.file <;> simp [written, file, List.lookup_cons]
  simp only [ofValue?, Value.fields?_table .toml (by decide) order,
    Fields.withDefault_of_lookup level, Fields.withDefault_of_lookup console,
    Fields.withDefault_optional file FileOutput.ofValue?_toValue (by simp [FileOutput.toValue]),
    Fields.withDefault_of_lookup lines, Fields.withDefault_of_lookup targets, Value.text?,
    ConsoleOutput.ofValue?_toValue, LineForm.ofValue?_toValue,
    TargetLevels.ofValue?_toValue ordered, Option.bind_eq_bind, Option.bind_some, Option.pure_def]

/-- The table of a configuration as it is read back from sections. -/
theorem arranged_toValue {config : Config} (ordered : config.targets.IsOrdered) :
    ∃ members, config.toValue = .table members ∧ arranged members = config.written := by
  have level : Inline 0 (.text config.level) := .text 0 config.level
  have console := config.console.isPlainTable
  have lines := config.lines.isPlainTable
  have targets := ordered.isPlainTable
  refine ⟨_, rfl, ?_⟩
  simp only [arranged, level.settingsOf_cons, level.tablesOf_cons, console.settingsOf_cons,
    console.tablesOf_cons]
  cases given : config.file with
  | none =>
      simp only [settingsOf_null, tablesOf_null, lines.settingsOf_cons, lines.tablesOf_cons,
        targets.settingsOf_cons, targets.tablesOf_cons, settingsOf_nil, tablesOf_nil, written,
        given]
      rfl
  | some file =>
      have output := file.isPlainTable
      simp only [output.settingsOf_cons, output.tablesOf_cons, lines.settingsOf_cons,
        lines.tablesOf_cons, targets.settingsOf_cons, targets.tablesOf_cons, settingsOf_nil,
        tablesOf_nil, written, given]
      rfl

theorem sectioned_toValue {config : Config} (ordered : config.targets.IsOrdered) :
    Sectioned 2 config.toValue := by
  refine .table (by simp) (.inl ?_) fun member among => ?_
  · simp [settingsOf, Toml.isWritten, Toml.isTable]
  · simp only [List.mem_cons, List.not_mem_nil, or_false] at among
    rcases among with rfl | rfl | rfl | rfl | rfl
    · exact .inline _ (.text _ _)
    · exact config.console.isPlainTable.sectioned 0
    · cases config.file with
      | none => exact .null _
      | some file => exact file.isPlainTable.sectioned 0
    · exact config.lines.isPlainTable.sectioned 0
    · exact ordered.isPlainTable.sectioned 0

end Config

end QueryJournal.Logging
