import Mathlib
import QueryJournal.Proofs.Host.IgnoreList
import QueryJournal.Settings.Policy

namespace QueryJournal

/-!
The check of settings. It accepts exactly the settings that nothing is wrong with and otherwise
reports what comes first. The policy that settings are checked to can be turned back into settings,
which are checked to the same policy again.
-/

namespace Settings

variable {settings : Settings} {policy : Policy} {fault : SettingsFault} {entry : String}

/-- An interval between an hour and a year. -/
def HasInterval (settings : Settings) : Prop :=
  1 ≤ settings.intervalHours ∧ settings.intervalHours ≤ 8760

/-- Settings that nothing is wrong with. -/
structure Sound (settings : Settings) : Prop where
  interval : settings.HasInterval
  memory : 0 < settings.memorySize
  retention : settings.keptSegments ≠ some 0
  ignored : IgnoreList.Acceptable settings.ignored

/-- The first thing that is wrong with settings. -/
def IsFirstFault (settings : Settings) : SettingsFault → Prop
  | .interval hours => ¬ settings.HasInterval ∧ hours = settings.intervalHours
  | .memorySize => settings.HasInterval ∧ settings.memorySize = 0
  | .retention =>
    settings.HasInterval ∧ 0 < settings.memorySize ∧ settings.keptSegments = some 0
  | .ignored fault =>
    settings.HasInterval ∧ 0 < settings.memorySize ∧ settings.keptSegments ≠ some 0 ∧
      IgnoreList.IsFirstFault settings.ignored fault

/-- The policy that settings stand for. -/
def toPolicy (settings : Settings) : Policy where
  enabled := settings.enabled
  fileEnabled := settings.fileEnabled
  rotationSeconds := settings.intervalHours * 3600
  memorySize := settings.memorySize
  directory := settings.directory
  ignored := { hosts := IgnoreList.sorted (settings.ignored.map IgnoreList.hostOf) }
  masksClients := settings.masksClients
  keptSegments := settings.keptSegments

/-!
### What the check answers
-/

/-- No interval out of order is counted as one in order. -/
theorem hasInterval_iff : settings.HasInterval ↔
    ¬ (settings.rotationSeconds < minRotationSeconds ∨
      maxRotationSeconds < settings.rotationSeconds) := by
  -- An interval past the limit is cut to it, and the limit is far past the longest one.
  have limit : maxSeconds = 18446744073709551615 := rfl
  rw [HasInterval, rotationSeconds, limit, minRotationSeconds, maxRotationSeconds]
  omega

theorem rotationSeconds_eq (interval : settings.HasInterval) :
    settings.rotationSeconds = settings.intervalHours * 3600 := by
  have limit : maxSeconds = 18446744073709551615 := rfl
  rw [HasInterval] at interval
  rw [rotationSeconds, limit]
  omega

/-- What settings are checked to, or what is reported of them. -/
theorem check_cases (settings : Settings) :
    (settings.Sound ∧ settings.check = .ok settings.toPolicy) ∨
      ∃ fault, settings.IsFirstFault fault ∧ settings.check = .error fault := by
  rw [check]
  by_cases interval : settings.HasInterval
  · rw [if_neg (hasInterval_iff.mp interval)]
    by_cases memory : settings.memorySize = 0
    · exact .inr ⟨.memorySize, ⟨interval, memory⟩, if_pos memory⟩
    rw [if_neg memory]
    have positive := Nat.pos_of_ne_zero memory
    by_cases retention : settings.keptSegments = some 0
    · exact .inr ⟨.retention, ⟨interval, positive, retention⟩, if_pos retention⟩
    rw [if_neg retention]
    rcases IgnoreList.ofEntries_cases settings.ignored with ⟨acceptable, made⟩ |
      ⟨fault, first, failed⟩
    · rw [made, rotationSeconds_eq interval]
      exact .inl ⟨⟨interval, positive, retention, acceptable⟩, rfl⟩
    · rw [failed]
      exact .inr ⟨.ignored fault, ⟨interval, positive, retention, first⟩, rfl⟩
  · rw [if_pos (not_not.mp (mt hasInterval_iff.mpr interval))]
    exact .inr ⟨.interval settings.intervalHours, ⟨interval, rfl⟩, rfl⟩

theorem IsFirstFault.not_sound (first : settings.IsFirstFault fault) : ¬ settings.Sound := by
  intro sound
  cases fault with
  | interval => exact first.1 sound.interval
  | memorySize => exact Nat.ne_of_gt sound.memory first.2
  | retention => exact sound.retention first.2.2
  | ignored => exact first.2.2.2.not_acceptable sound.ignored

/-- Only one thing comes first. -/
theorem IsFirstFault.eq {other : SettingsFault} (first : settings.IsFirstFault fault)
    (second : settings.IsFirstFault other) : fault = other := by
  cases fault with
  | interval =>
      cases other with
      | interval => rw [first.2, second.2]
      | memorySize | retention | ignored => exact absurd second.1 first.1
  | memorySize =>
      cases other with
      | interval => exact absurd first.1 second.1
      | memorySize => rfl
      | retention | ignored => exact absurd first.2 (Nat.ne_of_gt second.2.1)
  | retention =>
      cases other with
      | interval => exact absurd first.1 second.1
      | memorySize => exact absurd second.2 (Nat.ne_of_gt first.2.1)
      | retention => rfl
      | ignored => exact absurd first.2.2 second.2.2.1
  | ignored =>
      cases other with
      | interval => exact absurd first.1 second.1
      | memorySize => exact absurd second.2 (Nat.ne_of_gt first.2.1)
      | retention => exact absurd second.2.2 first.2.2.1
      | ignored => rw [first.2.2.2.eq second.2.2.2]

theorem check_eq_ok_iff :
    settings.check = .ok policy ↔ settings.Sound ∧ policy = settings.toPolicy := by
  rcases check_cases settings with ⟨sound, checked⟩ | ⟨fault, first, failed⟩
  · rw [checked, and_iff_right sound, Except.ok.injEq, eq_comm]
  · rw [failed]
    exact iff_of_false nofun fun checked => first.not_sound checked.1

theorem check_eq_error_iff : settings.check = .error fault ↔ settings.IsFirstFault fault := by
  rcases check_cases settings with ⟨sound, checked⟩ | ⟨other, first, failed⟩
  · rw [checked]
    exact iff_of_false nofun fun first => first.not_sound sound
  · rw [failed, Except.error.injEq]
    exact ⟨fun same => same ▸ first, fun second => first.eq second⟩

/-- Settings are accepted exactly if their interval lies between an hour and a year, there is room
in memory, at least one segment is kept, and the ignored hosts are names of which no two are the
same. Otherwise the first of these that is not so is reported; of the ignored hosts, it is the one
at the first place up to which they are not acceptable, as it was written, together with what is
wrong with it. -/
theorem check_reports_first_fault (settings : Settings) :
    ((∃ policy, settings.check = .ok policy) ↔ settings.Sound) ∧
      ∀ fault, settings.check = .error fault ↔ settings.IsFirstFault fault := by
  refine ⟨⟨fun ⟨policy, checked⟩ => (check_eq_ok_iff.mp checked).1, fun sound => ?_⟩,
    fun fault => check_eq_error_iff⟩
  exact ⟨settings.toPolicy, check_eq_ok_iff.mpr ⟨sound, rfl⟩⟩

/-!
### Checking again
-/

theorem toSettings_toPolicy (settings : Settings) :
    settings.toPolicy.toSettings =
      { settings with ignored := IgnoreList.sorted (settings.ignored.map IgnoreList.hostOf) } := by
  rw [toPolicy, Policy.toSettings]
  dsimp only
  rw [Nat.mul_div_cancel _ (by decide)]

/-- Accepted settings are turned into a policy and back without a change but to the ignored hosts,
which are then the hosts of the entries in ascending order, none of them lost, added or merged with
another one. What comes out is checked to the same policy. An entry in normal form makes up the same
list as the entry, so that it ignores the same questions. -/
theorem settings_survive_check (valid : settings.check = .ok policy) :
    policy.toSettings.check = .ok policy ∧
    policy.toSettings.check.map Policy.toSettings = .ok policy.toSettings ∧
    policy.toSettings = { settings with ignored := policy.ignored.hosts } ∧
    policy.ignored.hosts.Perm (settings.ignored.map IgnoreList.hostOf) ∧
    policy.ignored.hosts.Pairwise (· < ·) ∧
    ∀ entry ∈ settings.ignored, ∃ list, IgnoreList.ofEntries [entry] = .ok list ∧
      IgnoreList.ofEntries [IgnoreList.hostOf entry] = .ok list := by
  obtain ⟨sound, rfl⟩ := check_eq_ok_iff.mp valid
  have back := settings.toSettings_toPolicy
  have again : settings.toPolicy.toSettings.check = .ok settings.toPolicy := by
    have made := IgnoreList.ofEntries_eq_ok_iff.mpr ⟨sound.ignored, rfl⟩
    obtain ⟨acceptable, same⟩ := IgnoreList.ofEntries_eq_ok_iff.mp (IgnoreList.ofEntries_hosts made)
    rw [check_eq_ok_iff, back]
    refine ⟨⟨sound.interval, sound.memory, sound.retention, acceptable⟩, ?_⟩
    simp only [toPolicy]
    rw [← same]
  refine ⟨again, congrArg (Except.map Policy.toSettings) again, back, IgnoreList.sorted_perm _,
    IgnoreList.pairwise_lt_sorted sound.ignored.distinct, fun entry member => ?_⟩
  have acceptable := sound.ignored.of_sublist (List.singleton_sublist.mpr member)
  have made := IgnoreList.ofEntries_eq_ok_iff.mpr ⟨acceptable, rfl⟩
  have normalForm := IgnoreList.ofEntries_map_hostOf made
  rw [List.map_singleton] at normalForm
  exact ⟨_, made, normalForm⟩

/-- Settings with two ignored hosts that are in no order and not in normal form. -/
def tidySettings : Settings :=
  { intervalHours := 48, ignored := [" Tracker.Test. ", "ADS.test"], keptSegments := some 10 }

theorem settings_survive_check_tidy :
    ∃ policy, tidySettings.check = .ok policy ∧ policy.toSettings.check = .ok policy ∧
      policy.toSettings = { tidySettings with ignored := ["ads.test", "tracker.test"] } := by
  have sound : tidySettings.Sound :=
    { interval := ⟨by decide, by decide⟩
      memory := by decide
      retention := by decide
      ignored := { isName := by decide +kernel, distinct := by decide +kernel } }
  have valid := check_eq_ok_iff.mpr ⟨sound, rfl⟩
  obtain ⟨again, _, back, perm, ordered, _⟩ := settings_survive_check valid
  have hosts : tidySettings.ignored.map IgnoreList.hostOf = ["tracker.test", "ads.test"] := by
    decide +kernel
  have same : tidySettings.toPolicy.ignored.hosts = ["ads.test", "tracker.test"] := by
    refine List.Perm.eq_of_pairwise (fun _ _ _ _ => String.le_antisymm)
      (ordered.imp le_of_lt) (by decide) (perm.trans ?_)
    rw [hosts]
    exact List.Perm.swap _ _ _
  exact ⟨_, valid, again, by rw [back, same]⟩

end Settings

end QueryJournal
