import Mathlib.Data.List.Sort
import QueryJournal.Proofs.Segment.Naming
import QueryJournal.Proofs.Storage.Names

namespace QueryJournal.Segment

open QueryJournal.Storage
open QueryJournal.Time (Instant)

/-!
The segments that are found in a directory. Each is known by its name, and a directory with one
more segment is one in which that segment is found behind the others.
-/

variable {directory : String} {disk after : Disk} {segment : Segment} {number : Nat}
  {time : Instant} {left right : List Segment}

/-- The segments in the directory of a log, oldest first. -/
def found (directory : String) (disk : Disk) : List Segment :=
  discover directory disk.names

def IsTidy (disk : Disk) : Prop :=
  ∀ name ∈ disk.names, '/' ∉ name.toList

theorem mem_found (tidy : IsTidy disk) : segment ∈ found directory disk ↔
    segment.name ∈ disk.names ∧ isCandidate segment.name = true ∧
      parse? (Path.join directory segment.name) = some segment := by
  rw [found, mem_discover]
  constructor
  · rintro ⟨name, member, candidate, read⟩
    have proper := isName_of_isCandidate (tidy name member) candidate
    rw [name_of_parse? proper read]
    exact ⟨member, candidate, read⟩
  · exact fun known => ⟨segment.name, known⟩

theorem find?_of_mem_found (tidy : IsTidy disk) (member : segment ∈ found directory disk) :
    ∃ node, disk.find? segment.name = some node :=
  Disk.mem_names_iff.mp ((mem_found tidy).mp member).1

theorem mem_found_of_sublist (tidy : IsTidy disk) (fewer : after.names.Sublist disk.names)
    (member : segment ∈ found directory after) : segment ∈ found directory disk := by
  have still : IsTidy after := fun name listed => tidy name (fewer.subset listed)
  obtain ⟨listed, known⟩ := (mem_found still).mp member
  exact (mem_found tidy).mpr ⟨fewer.subset listed, known⟩

theorem found_perm (directory : String) (disk : Disk) :
    (found directory disk).Perm ((disk.names.filter isCandidate).filterMap fun name =>
      parse? (Path.join directory name)) :=
  sorted_perm _

theorem nodup_numbers_of_sublist (fewer : after.names.Sublist disk.names)
    (distinct : ((found directory disk).map Segment.number).Nodup) :
    ((found directory after).map Segment.number).Nodup := by
  have before := ((found_perm directory disk).map Segment.number).nodup_iff.mp distinct
  refine ((found_perm directory after).map Segment.number).nodup_iff.mpr ?_
  exact before.sublist (((fewer.filter isCandidate).filterMap _).map Segment.number)

/-- A name more in the directory is a segment more if it can be read. -/
theorem found_perm_of_added (directory : String) {name : String}
    (candidate : isCandidate name = true) (names : after.names = disk.names ++ [name]) :
    (found directory after).Perm
      (found directory disk ++ (parse? (Path.join directory name)).toList) := by
  have one : ([name].filter isCandidate).filterMap
      (fun name => parse? (Path.join directory name)) =
        (parse? (Path.join directory name)).toList := by
    rw [List.filter_cons_of_pos candidate]
    cases read : parse? (Path.join directory name) <;> simp [read]
  have perm := found_perm directory after
  rw [names, List.filter_append, List.filterMap_append, one] at perm
  exact perm.trans ((found_perm directory disk).symm.append_right _)

theorem isCandidate_inDirectory (directory : String) (number : Nat) (time : Instant) :
    isCandidate (inDirectory directory number time).name = true := by
  rw [name_inDirectory]
  exact isCandidate_fileName _ _

theorem found_perm_of_made (fits : Fits number time.truncated)
    (names : after.names = disk.names ++ [(inDirectory directory number time).name]) :
    (found directory after).Perm
      (found directory disk ++ [inDirectory directory number time]) := by
  have perm := found_perm_of_added directory (isCandidate_inDirectory directory number time) names
  rw [parse?_inDirectory fits] at perm
  exact perm

/-- Lists of segments in the order of their numbers are the same if they have the same segments. -/
theorem eq_of_ascending (ascending : left.Pairwise fun older newer => older.number < newer.number)
    (also : right.Pairwise fun older newer => older.number < newer.number)
    (same : ∀ segment, segment ∈ left ↔ segment ∈ right) : left = right := by
  have irreflexive : Std.Irrefl fun older newer : Segment => older.number < newer.number :=
    ⟨fun segment => Nat.lt_irrefl segment.number⟩
  have antisymmetric : Std.Antisymm fun older newer : Segment => older.number < newer.number :=
    ⟨fun _ _ before after => absurd after (Nat.lt_asymm before)⟩
  exact ascending.eq_of_mem_iff also same

end QueryJournal.Segment
