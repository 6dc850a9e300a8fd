import Mathlib
import QueryJournal.Dns.Message
import QueryJournal.Host.IgnoreList
import QueryJournal.Proofs.Host.Normal

namespace QueryJournal

open QueryJournal.Host (IsName normal)

/-!
Lists of hosts that are never recorded. Entries make up a list exactly if each of them is a host
name in normal form and no two of them have the same one; otherwise the first entry that cannot be
added to those before it is reported. A name is ignored exactly if it is the name of an entry.
-/

/-- The place of the entry that a fault is about. -/
def IgnoreFault.index : IgnoreFault → Nat
  | .empty index => index
  | .malformed index _ _ => index
  | .duplicate index _ => index

namespace IgnoreList

variable {earlier entries others : List String} {entry : String} {list : IgnoreList}
  {fault other : IgnoreFault} {seen rest : List String} {index : Nat}

/-- The host of an entry. -/
def hostOf (entry : String) : String :=
  String.ofList (normal entry.toList)

/-- Entries that make up a list. -/
structure Acceptable (entries : List String) : Prop where
  isName : ∀ entry ∈ entries, IsName (normal entry.toList)
  distinct : (entries.map hostOf).Nodup

/-- What a fault says of an entry behind others. -/
def Tells (earlier : List String) (entry : String) : IgnoreFault → Prop
  | .empty _ => normal entry.toList = []
  | .malformed _ written fault =>
    written = entry ∧ normal entry.toList ≠ [] ∧ ¬ IsName (normal entry.toList) ∧
      Host.check (normal entry.toList) = .error fault ∧ fault.Holds (normal entry.toList)
  | .duplicate _ written =>
    written = entry ∧ IsName (normal entry.toList) ∧ hostOf entry ∈ earlier.map hostOf

/-- A fault that tells what is wrong with the entry at the first place up to which the entries make
up no list. -/
def IsFirstFault (entries : List String) (fault : IgnoreFault) : Prop :=
  IsLeast { index | ¬ Acceptable (entries.take (index + 1)) } fault.index ∧
    ∃ entry, entries[fault.index]? = some entry ∧ Tells (entries.take fault.index) entry fault

/-!
### Acceptable entries
-/

theorem acceptable_nil : Acceptable [] where
  isName := by simp
  distinct := List.nodup_nil

theorem Acceptable.concat (acceptable : Acceptable earlier) (proper : IsName (normal entry.toList))
    (new : hostOf entry ∉ earlier.map hostOf) : Acceptable (earlier ++ [entry]) where
  isName := by
    intro other member
    rcases List.mem_append.mp member with before | last
    · exact acceptable.isName other before
    · rwa [List.mem_singleton.mp last]
  distinct := by
    rw [List.map_append, List.map_singleton]
    exact List.nodup_append_comm.mp (List.nodup_cons.mpr ⟨new, acceptable.distinct⟩)

theorem Acceptable.of_sublist (acceptable : Acceptable entries) (part : earlier.Sublist entries) :
    Acceptable earlier where
  isName entry member := acceptable.isName entry (part.subset member)
  distinct := acceptable.distinct.sublist (part.map hostOf)

/-- An entry of which something is told cannot be added. -/
theorem Tells.not_acceptable (tells : Tells earlier entry fault) :
    ¬ Acceptable (earlier ++ [entry]) := by
  intro acceptable
  have proper := acceptable.isName entry (by simp)
  have distinct := acceptable.distinct
  rw [List.map_append, List.map_singleton, List.nodup_append_comm] at distinct
  cases fault with
  | empty => exact proper.ne_nil tells
  | malformed => exact tells.2.2.1 proper
  | duplicate => exact (List.nodup_cons.mp distinct).1 tells.2.2

/-- No two different things are told of one entry. -/
theorem Tells.eq (tells : Tells earlier entry fault) (tellsOther : Tells earlier entry other)
    (same : fault.index = other.index) : fault = other := by
  cases fault with
  | empty =>
      cases other with
      | empty => exact congrArg _ same
      | malformed => exact absurd tells tellsOther.2.1
      | duplicate => exact absurd tells tellsOther.2.1.ne_nil
  | malformed =>
      cases other with
      | empty => exact absurd tellsOther tells.2.1
      | malformed =>
          obtain ⟨rfl, _, _, checked, _⟩ := tells
          obtain ⟨rfl, _, _, checkedOther, _⟩ := tellsOther
          cases checked.symm.trans checkedOther
          exact congrArg (IgnoreFault.malformed · _ _) same
      | duplicate => exact absurd tellsOther.2.1 tells.2.2.1
  | duplicate =>
      cases other with
      | empty => exact absurd tellsOther tells.2.1.ne_nil
      | malformed => exact absurd tells.2.1 tellsOther.2.2.1
      | duplicate =>
          obtain ⟨rfl, _⟩ := tells
          obtain ⟨rfl, _⟩ := tellsOther
          exact congrArg (IgnoreFault.duplicate · _) same

/-!
### Collecting them
-/

theorem collect_empty (none : normal entry.toList = []) :
    collect index seen (entry :: rest) = .error (.empty index) := by
  rw [collect, none]
  rfl

theorem collect_malformed {fault : Host.Fault} (some : normal entry.toList ≠ [])
    (checked : Host.check (normal entry.toList) = .error fault) :
    collect index seen (entry :: rest) = .error (.malformed index entry fault) := by
  rw [collect]
  dsimp only
  rw [List.isEmpty_eq_false_iff.mpr some, if_neg (by decide), checked]

theorem collect_of_isName (proper : IsName (normal entry.toList)) :
    collect index seen (entry :: rest) =
      if seen.contains (hostOf entry) then .error (.duplicate index entry)
      else collect (index + 1) (hostOf entry :: seen) rest := by
  rw [collect]
  dsimp only
  rw [List.isEmpty_eq_false_iff.mpr proper.ne_nil, if_neg (by decide),
    (Host.check_eq_ok_iff _).mpr proper]
  rfl

/-- Entries behind others, among which there is a first one that cannot be added. -/
def Refused (earlier entries : List String) (fault : IgnoreFault) : Prop :=
  ∃ before entry after, entries = before ++ entry :: after ∧ Acceptable (earlier ++ before) ∧
    fault.index = (earlier ++ before).length ∧ Tells (earlier ++ before) entry fault

theorem refused_first (acceptable : Acceptable earlier) (index : fault.index = earlier.length)
    (tells : Tells earlier entry fault) : Refused earlier (entry :: rest) fault := by
  refine ⟨[], entry, rest, rfl, ?_⟩
  rw [List.append_nil]
  exact ⟨acceptable, index, tells⟩

theorem Refused.cons (refused : Refused (earlier ++ [entry]) rest fault) :
    Refused earlier (entry :: rest) fault := by
  obtain ⟨before, bad, after, rfl, told⟩ := refused
  rw [← List.append_cons] at told
  exact ⟨entry :: before, bad, after, rfl, told⟩

/-- Entries behind acceptable ones are collected or refused. -/
theorem collect_cases (acceptable : Acceptable earlier) (entries : List String) :
    (Acceptable (earlier ++ entries) ∧
        collect earlier.length (earlier.map hostOf).reverse entries =
          .ok ((earlier ++ entries).map hostOf).reverse) ∨
      ∃ fault, Refused earlier entries fault ∧
        collect earlier.length (earlier.map hostOf).reverse entries = .error fault := by
  induction entries generalizing earlier with
  | nil =>
      rw [List.append_nil]
      exact .inl ⟨acceptable, rfl⟩
  | cons entry rest ih =>
      by_cases none : normal entry.toList = []
      · exact .inr ⟨.empty earlier.length, refused_first acceptable rfl none, collect_empty none⟩
      cases checked : Host.check (normal entry.toList) with
      | error fault =>
          have improper : ¬ IsName (normal entry.toList) := by
            rw [← Host.check_eq_ok_iff, checked]
            exact nofun
          have tells : Tells earlier entry (.malformed earlier.length entry fault) :=
            ⟨rfl, none, improper, checked, Host.Fault.holds_of_check checked⟩
          exact .inr ⟨_, refused_first acceptable rfl tells, collect_malformed none checked⟩
      | ok =>
          have proper := (Host.check_eq_ok_iff _).mp checked
          rw [collect_of_isName proper]
          by_cases old : hostOf entry ∈ earlier.map hostOf
          · have tells : Tells earlier entry (.duplicate earlier.length entry) :=
              ⟨rfl, proper, old⟩
            rw [if_pos (List.contains_iff_mem.mpr (List.mem_reverse.mpr old))]
            exact .inr ⟨_, refused_first acceptable rfl tells, rfl⟩
          · -- The entry joins those before it, which is what the rest is collected behind.
            have next := ih (acceptable.concat proper old)
            rw [List.length_append, List.map_append, List.reverse_append,
              ← List.append_cons] at next
            rw [if_neg (mt List.contains_iff_mem.mp (mt List.mem_reverse.mp old))]
            rcases next with collected | ⟨fault, refused, failed⟩
            · exact .inl collected
            · exact .inr ⟨fault, refused.cons, failed⟩

/-!
### The list of entries
-/

theorem sorted_perm (hosts : List String) : (sorted hosts).Perm hosts :=
  List.mergeSort_perm _ _

theorem pairwise_sorted (hosts : List String) : (sorted hosts).Pairwise (· ≤ ·) := by
  have ordered : (sorted hosts).Pairwise fun left right => decide (left ≤ right) = true :=
    List.pairwise_mergeSort (by simpa using fun _ _ _ => String.le_trans)
      (by simpa using String.le_total) hosts
  exact ordered.imp fun le => of_decide_eq_true le

theorem sorted_eq_of_perm {left right : List String} (perm : left.Perm right) :
    sorted left = sorted right :=
  List.Perm.eq_of_pairwise (fun _ _ _ _ => String.le_antisymm) (pairwise_sorted left)
    (pairwise_sorted right) (((sorted_perm left).trans perm).trans (sorted_perm right).symm)

theorem IsFirstFault.not_acceptable (first : IsFirstFault entries fault) :
    ¬ Acceptable entries :=
  fun acceptable => first.1.1 (acceptable.of_sublist (List.take_sublist _ _))

theorem IsFirstFault.eq (first : IsFirstFault entries fault)
    (second : IsFirstFault entries other) : fault = other := by
  have same : fault.index = other.index := first.1.unique second.1
  obtain ⟨entry, found, tells⟩ := first.2
  obtain ⟨entryOther, foundOther, tellsOther⟩ := second.2
  rw [← same] at foundOther tellsOther
  cases found.symm.trans foundOther
  exact tells.eq tellsOther same

theorem Refused.isFirstFault (refused : Refused [] entries fault) :
    IsFirstFault entries fault := by
  obtain ⟨before, entry, after, rfl, acceptable, index, tells⟩ := refused
  rw [List.nil_append] at acceptable index tells
  refine ⟨⟨?_, fun place unacceptable => ?_⟩, entry, ?_, ?_⟩
  · have upTo : (before ++ entry :: after).take (fault.index + 1) = before ++ [entry] := by
      rw [index, List.append_cons, List.take_left' (by simp)]
    change ¬ Acceptable _
    rw [upTo]
    exact tells.not_acceptable
  · -- Up to an earlier place there are acceptable entries only.
    by_contra earlier
    refine unacceptable (acceptable.of_sublist ?_)
    rw [index] at earlier
    rw [List.take_append_of_le_length (by omega)]
    exact List.take_sublist _ _
  · rw [index]
    simp
  · rw [index, List.take_left' rfl]
    exact tells

/-- What entries make up, or what is reported of them. -/
theorem ofEntries_cases (entries : List String) :
    (Acceptable entries ∧ ofEntries entries = .ok { hosts := sorted (entries.map hostOf) }) ∨
      ∃ fault, IsFirstFault entries fault ∧ ofEntries entries = .error fault := by
  rcases collect_cases acceptable_nil entries with ⟨acceptable, collected⟩ |
    ⟨fault, refused, failed⟩
  · have collected : collect 0 [] entries = .ok (entries.map hostOf).reverse := collected
    refine .inl ⟨acceptable, ?_⟩
    rw [ofEntries, collected, ← sorted_eq_of_perm (List.reverse_perm _)]
    rfl
  · have failed : collect 0 [] entries = .error fault := failed
    refine .inr ⟨fault, refused.isFirstFault, ?_⟩
    rw [ofEntries, failed]
    rfl

-- What is repeated is the host; what is reported is the entry as it was written.
example : ofEntries ["a.example", "b.example", "A.Example."] =
    .error (.duplicate 2 "A.Example.") := by decide +kernel

theorem ofEntries_eq_ok_iff : ofEntries entries = .ok list ↔
    Acceptable entries ∧ list = { hosts := sorted (entries.map hostOf) } := by
  rcases ofEntries_cases entries with ⟨acceptable, made⟩ | ⟨fault, first, failed⟩
  · rw [made, and_iff_right acceptable, Except.ok.injEq, eq_comm]
  · rw [failed]
    exact iff_of_false nofun fun made => first.not_acceptable made.1

/-!
### Hosts as entries
-/

theorem pairwise_lt_sorted {hosts : List String} (distinct : hosts.Nodup) :
    (sorted hosts).Pairwise (· < ·) := by
  have different := (sorted_perm hosts).nodup_iff.mpr distinct
  exact (pairwise_sorted hosts).imp₂ (fun _ _ le ne => lt_of_le_of_ne le ne) different

theorem hostOf_hostOf (proper : IsName (normal entry.toList)) :
    hostOf (hostOf entry) = hostOf entry := by
  rw [hostOf, hostOf, String.toList_ofList, Host.normal_normal proper]

theorem Acceptable.map_hostOf (acceptable : Acceptable entries) :
    (entries.map hostOf).map hostOf = entries.map hostOf := by
  rw [List.map_map]
  exact List.map_congr_left fun entry member => hostOf_hostOf (acceptable.isName entry member)

theorem Acceptable.hosts (acceptable : Acceptable entries) : Acceptable (entries.map hostOf) where
  isName := by
    intro host member
    obtain ⟨entry, found, rfl⟩ := List.mem_map.mp member
    have proper := acceptable.isName entry found
    rwa [hostOf, String.toList_ofList, Host.normal_normal proper]
  distinct := by
    rw [acceptable.map_hostOf]
    exact acceptable.distinct

theorem Acceptable.perm (acceptable : Acceptable entries) (perm : entries.Perm others) :
    Acceptable others where
  isName entry member := acceptable.isName entry (perm.mem_iff.mpr member)
  distinct := (perm.map hostOf).nodup_iff.mp acceptable.distinct

/-- Entries in normal form make up the same list. -/
theorem ofEntries_map_hostOf (made : ofEntries entries = .ok list) :
    ofEntries (entries.map hostOf) = .ok list := by
  obtain ⟨acceptable, rfl⟩ := ofEntries_eq_ok_iff.mp made
  rw [ofEntries_eq_ok_iff, acceptable.map_hostOf]
  exact ⟨acceptable.hosts, rfl⟩

theorem ofEntries_perm (made : ofEntries entries = .ok list) (perm : entries.Perm others) :
    ofEntries others = .ok list := by
  obtain ⟨acceptable, rfl⟩ := ofEntries_eq_ok_iff.mp made
  rw [ofEntries_eq_ok_iff, sorted_eq_of_perm (perm.map hostOf)]
  exact ⟨acceptable.perm perm, rfl⟩

/-- The hosts of a list make it up again. -/
theorem ofEntries_hosts (made : ofEntries entries = .ok list) :
    ofEntries list.hosts = .ok list := by
  obtain ⟨_, same⟩ := ofEntries_eq_ok_iff.mp made
  refine ofEntries_perm (ofEntries_map_hostOf made) ?_
  rw [same]
  exact (sorted_perm _).symm

/-!
### What is ignored
-/

theorem admits_eq_false_iff (made : ofEntries entries = .ok list) (host : String) :
    list.admits host = false ↔ ∃ entry ∈ entries, hostOf entry = hostOf host := by
  obtain ⟨_, rfl⟩ := ofEntries_eq_ok_iff.mp made
  have listed : hostOf host ∈ sorted (entries.map hostOf) ↔
      ∃ entry ∈ entries, hostOf entry = hostOf host := by
    rw [(sorted_perm _).mem_iff, List.mem_map]
  rw [← listed, admits, Bool.or_eq_false_iff, Bool.not_eq_false', List.contains_iff_mem]
  refine and_iff_right_of_imp fun member => ?_
  exact List.isEmpty_eq_false_iff.mpr (List.ne_nil_of_mem member)

/-- An entry that stands for a name: in normal form it is a name with the same labels. -/
def Names (entry : String) (name : Dns.Name) : Prop :=
  ∃ host, Dns.Name.ofText? (normal entry.toList) = some host ∧ host.SameIgnoringCase name

theorem hostOf_eq_iff_names (proper : IsName (normal entry.toList)) (name : Dns.Name) :
    hostOf entry = hostOf (String.ofList name.text) ↔ Names entry name := by
  obtain ⟨host, read, text, _⟩ := proper.exists_name_normal (Host.fold_normal _)
  rw [hostOf, hostOf, String.toList_ofList, String.ofList_inj, ← text, Host.normal_text_inj]
  refine ⟨fun same => ⟨host, read, same⟩, fun ⟨other, readOther, same⟩ => ?_⟩
  cases read.symm.trans readOther
  exact same

/-- Every label of a name that an entry stands for could stand in an entry. -/
theorem Names.isHostLabel {name : Dns.Name} (names : Names entry name)
    (proper : IsName (normal entry.toList)) : ∀ label ∈ name.labels, Host.IsHostLabel label := by
  obtain ⟨host, read, same⟩ := names
  obtain ⟨other, readOther, _, plain⟩ := proper.exists_name
  cases read.symm.trans readOther
  intro label member
  have lowered : label.map Dns.lower ∈ host.labels.map (List.map Dns.lower) := by
    rw [Dns.Name.SameIgnoringCase] at same
    rw [same]
    exact List.mem_map_of_mem member
  obtain ⟨original, found, alike⟩ := List.mem_map.mp lowered
  rw [← Host.isHostLabel_lower, ← alike, Host.isHostLabel_lower]
  exact plain original found

/-- Every entry of a list is a name in normal form, and a question is ignored exactly if an entry
stands for its name, whatever its type and class. A name with a label that no host has is never
taken for one, and a name below or above that of an entry is recorded unless another entry stands
for it. -/
theorem ignored_iff_same_name (made : ofEntries entries = .ok list) :
    (∀ entry ∈ entries, ∃ host, Dns.Name.ofText? (normal entry.toList) = some host) ∧
    (∀ question : Dns.Question, list.admits (String.ofList question.name.text) = false ↔
      ∃ entry ∈ entries, Names entry question.name) ∧
    (∀ question : Dns.Question, (∃ label ∈ question.name.labels, ¬ Host.IsHostLabel label) →
      list.admits (String.ofList question.name.text) = true) ∧
    ∀ question : Dns.Question, ∀ entry ∈ entries, ∀ host,
      Dns.Name.ofText? (normal entry.toList) = some host →
      question.name.IsBelow host ∨ host.IsBelow question.name →
      (∀ other ∈ entries, other ≠ entry → ¬ Names other question.name) →
      list.admits (String.ofList question.name.text) = true := by
  have acceptable := (ofEntries_eq_ok_iff.mp made).1
  have ignored : ∀ question : Dns.Question,
      list.admits (String.ofList question.name.text) = false ↔
        ∃ entry ∈ entries, Names entry question.name := by
    intro question
    rw [admits_eq_false_iff made]
    exact exists_congr fun entry => and_congr_right fun member =>
      hostOf_eq_iff_names (acceptable.isName entry member) question.name
  refine ⟨fun entry member => ?_, ignored, fun question strange => ?_,
    fun question entry member host read related alone => ?_⟩
  · obtain ⟨host, read, _⟩ := (acceptable.isName entry member).exists_name
    exact ⟨host, read⟩
  · obtain ⟨label, inside, strange⟩ := strange
    refine Bool.of_not_eq_false fun refused => ?_
    obtain ⟨entry, member, names⟩ := (ignored question).mp refused
    exact strange (names.isHostLabel (acceptable.isName entry member) label inside)
  · refine Bool.of_not_eq_false fun refused => ?_
    obtain ⟨other, found, names⟩ := (ignored question).mp refused
    by_cases same : other = entry
    · subst same
      obtain ⟨_, readOther, alike⟩ := names
      cases read.symm.trans readOther
      rcases related with below | above
      · exact below.not_same alike.symm
      · exact above.not_same alike
    · exact alone other found same names

/-- A name of two labels, written in capitals. -/
def loudName : Dns.Name where
  labels := [[0x41, 0x44, 0x53], [0x54, 0x45, 0x53, 0x54]]
  isLabel := by decide
  length_le := by decide

/-- A name of one label, in which there is a point. -/
def pointedName : Dns.Name where
  labels := [[0x61, 0x64, 0x73, 0x2E, 0x74, 0x65, 0x73, 0x74]]
  isLabel := by decide
  length_le := by decide

theorem ignored_iff_same_name_loud :
    ∃ list, ofEntries [" Ads.Test. ", "tracker.test"] = .ok list ∧
      list.admits (String.ofList loudName.text) = false ∧
      list.admits (String.ofList pointedName.text) = true := by
  have acceptable : Acceptable [" Ads.Test. ", "tracker.test"] :=
    { isName := by decide +kernel, distinct := by decide +kernel }
  have made := ofEntries_eq_ok_iff.mpr ⟨acceptable, rfl⟩
  obtain ⟨_, ignored, strange, _⟩ := ignored_iff_same_name made
  refine ⟨_, made, (ignored { name := loudName }).mpr ?_, strange { name := pointedName } ?_⟩
  · exact ⟨" Ads.Test. ", List.mem_cons_self, loudName.lowered, by decide +kernel,
      by decide +kernel⟩
  · exact ⟨_, List.mem_singleton_self _, by decide +kernel⟩

end IgnoreList

end QueryJournal
