import QueryJournal.Proofs.Document.Bounds
import QueryJournal.Proofs.Document.Value
import QueryJournal.Proofs.Toml.Sections
import QueryJournal.Settings.Basic

namespace QueryJournal

open QueryJournal.Document
open QueryJournal.Toml (Bounded Inline IsWord Sectioned arranged settingsOf tablesOf)

/-!
Settings in a text of sections. A number of the settings can be written because it was read from a
text or is a default; a number that may be missing is not written where it is missing, and reading
puts the same default there.
-/

namespace Settings

/-- Every number of the settings can be written into a text. -/
structure IsWritable (settings : Settings) : Prop where
  interval : IsWord settings.intervalHours
  memory : IsWord settings.memorySize
  kept : ∀ count, settings.keptSegments = some count → IsWord count

/-- The fields of settings as they are read back. -/
def written (settings : Settings) : Fields :=
  [("enabled", .bool settings.enabled), ("file_enabled", .bool settings.fileEnabled),
    ("interval_hours", .integer settings.intervalHours),
    ("size_memory", .integer settings.memorySize), ("dir", .text settings.directory),
    ("ignored", .list (settings.ignored.map .text)),
    ("anonymize_client_ip", .bool settings.masksClients)] ++
  (settings.keptSegments.map fun count => ("max_rotated_files", Value.integer count)).toList

theorem count?_of_isWord {count : Nat} (word : IsWord count) :
    (Value.integer count).count? UInt64.size = some count := by
  have small : (count : Int) ≤ (UInt64.size : Nat) - 1 := Int.le_trans word.2 (by decide)
  simp only [Value.count?, Value.integer?]
  rw [if_pos ⟨Int.natCast_nonneg count, small⟩]
  rfl

theorem ofValue?_written {settings : Settings} (writable : settings.IsWritable) :
    Settings.ofValue? .toml (.table settings.written) = some settings := by
  have order : (settings.written.map Prod.fst).Sublist fieldNames := by
    cases kept : settings.keptSegments <;> simp [written, kept, fieldNames]
  have interval := count?_of_isWord writable.interval
  have memory := count?_of_isWord writable.memory
  have kept : settings.written.withDefault "max_rotated_files" none
      (Value.optional? (Value.count? UInt64.size)) = some settings.keptSegments := by
    cases given : settings.keptSegments with
    | none => simp [written, given, Fields.withDefault, List.lookup_cons]
    | some count =>
        have found : settings.written.lookup "max_rotated_files" = some (.integer count) := by
          simp [written, given, List.lookup_cons]
        rw [Fields.withDefault_of_lookup found, Value.optional?,
          count?_of_isWord (writable.kept count given)]
        · rfl
        · exact Value.noConfusion
  have ignored : (Value.list (settings.ignored.map .text)).list? Value.text? =
      some settings.ignored := Value.list?_map settings.ignored fun _ => rfl
  have enabled : settings.written.lookup "enabled" = some (.bool settings.enabled) := rfl
  have fileEnabled : settings.written.lookup "file_enabled" =
      some (.bool settings.fileEnabled) := rfl
  have hours : settings.written.lookup "interval_hours" =
      some (.integer settings.intervalHours) := rfl
  have size : settings.written.lookup "size_memory" = some (.integer settings.memorySize) := rfl
  have directory : settings.written.lookup "dir" = some (.text settings.directory) := rfl
  have hosts : settings.written.lookup "ignored" =
      some (.list (settings.ignored.map .text)) := rfl
  have masks : settings.written.lookup "anonymize_client_ip" =
      some (.bool settings.masksClients) := rfl
  simp only [ofValue?, Value.fields?_table .toml (by decide) order,
    Fields.withDefault_of_lookup enabled, Fields.withDefault_of_lookup fileEnabled,
    Fields.withDefault_of_lookup hours, Fields.withDefault_of_lookup size,
    Fields.withDefault_of_lookup directory, Fields.withDefault_of_lookup hosts,
    Fields.withDefault_of_lookup masks, Value.bool?, Value.text?, interval, memory, ignored, kept,
    Option.bind_eq_bind, Option.bind_some, Option.pure_def]

/-- The table of settings as it is read back from a section of its own. -/
theorem arranged_toValue (settings : Settings) :
    ∃ members, settings.toValue = .table members ∧ arranged members = settings.written := by
  refine ⟨_, rfl, ?_⟩
  cases kept : settings.keptSegments <;>
    simp [arranged, settingsOf, tablesOf, written, Toml.isWritten, Toml.isTable, kept]

theorem sectioned_toValue {settings : Settings} (writable : settings.IsWritable) (room : Nat) :
    Sectioned (room + 1) settings.toValue := by
  have names : Inline (Toml.nestingLimit - 1) (.list (settings.ignored.map .text)) := by
    refine Inline.list fun item among => ?_
    obtain ⟨name, _, rfl⟩ := List.mem_map.mp among
    exact .text _ name
  refine .table (by simp) (.inl ?_) ?_
  · simp [settingsOf, Toml.isWritten, Toml.isTable]
  · intro member among
    simp only [List.mem_cons, List.not_mem_nil, or_false] at among
    rcases among with rfl | rfl | rfl | rfl | rfl | rfl | rfl | rfl
    · exact .inline _ (.bool _ _)
    · exact .inline _ (.bool _ _)
    · exact .inline _ (.integer _ writable.interval)
    · exact .inline _ (.integer _ writable.memory)
    · exact .inline _ (.text _ _)
    · exact .inline _ names
    · exact .inline _ (.bool _ _)
    · cases kept : settings.keptSegments with
      | none => exact .null _
      | some count => exact .inline _ (.integer _ (writable.kept count kept))

end Settings

end QueryJournal
