import QueryJournal.Inspection.Commands
import QueryJournal.Proofs.Logging.Config
import QueryJournal.Proofs.Settings.Policy
import QueryJournal.Proofs.Settings.Written

namespace QueryJournal.Inspection

open QueryJournal.Document
open QueryJournal.Toml

/-!
Checking a configuration prints the text of the configuration that is in force, and that text says
exactly that.
-/

namespace Configuration

variable {configuration : Configuration}

/-- All that a configuration holds can be written into a text so that it is read back. -/
structure IsWritable (configuration : Configuration) : Prop where
  settings : configuration.settings.IsWritable
  targets : ∀ logging, configuration.logging = some logging → logging.targets.IsOrdered

/-- The directory of the log has no part in what can be written. -/
theorem IsWritable.inDirectory (writable : configuration.IsWritable) (directory : Option String) :
    (configuration.inDirectory directory).IsWritable :=
  ⟨⟨writable.settings.interval, writable.settings.memory, writable.settings.kept⟩,
    writable.targets⟩

/-- The tables of a configuration as they are read back. -/
def written (configuration : Configuration) : Fields :=
  ("querylog", .table configuration.settings.written) ::
    (configuration.logging.map fun logging => ("log", Value.table logging.written)).toList

theorem arranged_members (writable : configuration.IsWritable) :
    arranged configuration.members = configuration.written := by
  obtain ⟨settings, settingsText, settingsRead⟩ := configuration.settings.arranged_toValue
  rw [arranged, members, settingsText, settingsOf_table, tablesOf_table, settingsRead]
  cases given : configuration.logging with
  | none =>
      rw [settingsOf_null, tablesOf_null, settingsOf_nil, tablesOf_nil, written, given]
      rfl
  | some logging =>
      obtain ⟨inner, text, read⟩ := Logging.Config.arranged_toValue (writable.targets _ given)
      dsimp only
      rw [text, settingsOf_table, tablesOf_table, settingsOf_nil, tablesOf_nil, read, written,
        given]
      rfl

theorem isDocument_members (writable : configuration.IsWritable) :
    IsDocument 2 configuration.members := by
  refine ⟨by decide, by simp [members], fun member among => ?_⟩
  simp only [members, List.mem_cons, List.not_mem_nil, or_false] at among
  rcases among with rfl | rfl
  · exact Settings.sectioned_toValue writable.settings 1
  · cases given : configuration.logging with
    | none => exact .null 2
    | some logging => exact Logging.Config.sectioned_toValue (writable.targets logging given)

theorem ofValue?_written (writable : configuration.IsWritable) :
    ofValue? (.table configuration.written) = some configuration := by
  have order : (configuration.written.map Prod.fst).Sublist tableNames := by
    cases given : configuration.logging <;> simp [written, given, tableNames]
  have settings : configuration.written.lookup "querylog" =
      some (.table configuration.settings.written) := rfl
  have logging : configuration.written.withDefault "log" none
      (Value.optional? (Logging.Config.ofValue? .toml)) = some configuration.logging := by
    cases given : configuration.logging with
    | none => simp [written, given, Fields.withDefault, List.lookup_cons]
    | some config =>
        have found : configuration.written.lookup "log" = some (.table config.written) := by
          simp [written, given, List.lookup_cons]
        rw [Fields.withDefault_of_lookup found, Value.optional?,
          Logging.Config.ofValue?_written (writable.targets config given)]
        · rfl
        · exact Value.noConfusion
  simp only [ofValue?, Value.fields?_table .toml (by decide) order,
    Fields.withDefault_of_lookup settings, Settings.ofValue?_written writable.settings, logging,
    Option.bind_eq_bind, Option.bind_some, Option.pure_def]

/-- The text of a configuration says what the configuration says. -/
theorem parse?_text (writable : configuration.IsWritable) :
    parse? configuration.text = some configuration := by
  rw [parse?, text, String.toList_ofList, parse?_render (isDocument_members writable),
    Option.bind_some, arranged_members writable, ofValue?_written writable]

end Configuration

end QueryJournal.Inspection
