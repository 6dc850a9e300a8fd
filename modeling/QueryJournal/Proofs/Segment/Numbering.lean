import QueryJournal.Proofs.Segment.Catalog
import QueryJournal.Proofs.Segment.Discovery
import QueryJournal.Proofs.Text.Utf8

namespace QueryJournal

open QueryJournal.Time (Instant)
open QueryJournal.Utf8 (Bytes)

/-!
The numbers that an index gives out. They go on behind all numbers that were found in the directory,
so a new segment takes the name of no other one, and whoever looks into the directory later finds it
behind the others.
-/

namespace Segment

variable {directory : String} {names : List String}
  {later : List String} {segment : Segment} {new : List Segment}

/-- The names of a directory that are texts. Others are names of no segment. -/
def readable (listing : List Bytes) : List String :=
  listing.filterMap Utf8.toString?

theorem mem_readable {name : String} {listing : List Bytes}
    (member : Utf8.ofString name ∈ listing) : name ∈ readable listing :=
  List.mem_filterMap.mpr ⟨_, member, Utf8.toString?_ofString name⟩

theorem readable_perm {again listing : List Bytes}
    (added : again.Perm (listing ++ names.map Utf8.ofString)) :
    (readable again).Perm (readable listing ++ names) := by
  have own : (names.map Utf8.ofString).filterMap Utf8.toString? = names := by
    rw [List.filterMap_map, List.filterMap_eq_map_iff_forall_eq_some.mpr, List.map_id]
    exact fun name _ => Utf8.toString?_ofString name
  have perm := added.filterMap Utf8.toString?
  rw [List.filterMap_append, own] at perm
  exact perm

/-- The segments that are found among the names of a directory. -/
def listed (directory : String) (listing : List Bytes) : List Segment :=
  discover directory (readable listing)

theorem isCandidate_of_parse? {name : String} (proper : Path.IsName name)
    (read : parse? (Path.join directory name) = some segment) : isCandidate name = true := by
  rw [parse?_join proper, Option.map_eq_some_iff] at read
  obtain ⟨parts, read, -⟩ := read
  rw [isCandidate]
  cases start : Text.strip? nameStart.toList name.toList with
  | some rest => rfl
  | none => simp [parseName?, start] at read

/-- Only names that look like those of segments can be read as such. -/
theorem discover_eq_sorted (proper : ∀ name ∈ names, Path.IsName name) :
    discover directory names =
      sorted (names.filterMap fun name => parse? (Path.join directory name)) := by
  rw [discover, List.filterMap_filter]
  refine congrArg sorted (List.filterMap_congr fun name member => ?_)
  split
  · rfl
  · rename_i other
    cases read : parse? (Path.join directory name) with
    | none => rfl
    | some segment => exact absurd (isCandidate_of_parse? (proper name member) read) other

/-- The names of the segments that are found are the names that can be read. -/
theorem map_name_discover (proper : ∀ name ∈ names, Path.IsName name) :
    ((discover directory names).map Segment.name).Perm
      (names.filter fun name => (parse? (Path.join directory name)).isSome) := by
  rw [discover_eq_sorted proper]
  refine ((sorted_perm _).map Segment.name).trans (List.Perm.of_eq ?_)
  induction names with
  | nil => rfl
  | cons first names ih =>
      have rest := ih fun name member => proper name (List.mem_cons_of_mem first member)
      cases read : parse? (Path.join directory first) with
      | none => simpa [read] using rest
      | some segment =>
          simpa [read, name_of_parse? (proper first List.mem_cons_self) read] using rest

theorem pairwise_discover (proper : ∀ name ∈ names, Path.IsName name)
    (distinct : ((names.filterMap fun name => parse? (Path.join directory name)).map
      Segment.number).Nodup) :
    (discover directory names).Pairwise fun older newer => older.number < newer.number := by
  rw [discover_eq_sorted proper]
  exact pairwise_sorted_lt distinct

/-- Segments that can be read back under their names are found behind those that were there, if
their numbers are higher and go up. -/
theorem discover_appended (proper : ∀ name ∈ names, Path.IsName name)
    (distinct : ((names.filterMap fun name => parse? (Path.join directory name)).map
      Segment.number).Nodup)
    (made : ∀ segment ∈ new, Path.IsName segment.name ∧
      parse? (Path.join directory segment.name) = some segment)
    (higher : ∀ known ∈ discover directory names, ∀ segment ∈ new,
      known.number < segment.number)
    (ascending : new.Pairwise fun older newer => older.number < newer.number)
    (added : later.Perm (names ++ new.map Segment.name)) :
    discover directory later = discover directory names ++ new := by
  have all : ∀ name ∈ later, Path.IsName name := by
    intro name member
    rcases List.mem_append.mp (added.mem_iff.mp member) with before | last
    · exact proper name before
    · obtain ⟨segment, listed, rfl⟩ := List.mem_map.mp last
      exact (made segment listed).1
  have own : (new.map Segment.name).filterMap (fun name => parse? (Path.join directory name)) =
      new := by
    rw [List.filterMap_map, List.filterMap_eq_map_iff_forall_eq_some.mpr, List.map_id]
    exact fun segment member => (made segment member).2
  have perm : (discover directory later).Perm (discover directory names ++ new) := by
    have found := added.filterMap fun name => parse? (Path.join directory name)
    rw [List.filterMap_append, own] at found
    rw [discover_eq_sorted all, discover_eq_sorted proper]
    exact ((sorted_perm _).trans found).trans ((sorted_perm _).symm.append_right new)
  have sorted : (discover directory names ++ new).Pairwise
      fun older newer => older.number < newer.number :=
    List.pairwise_append.mpr ⟨pairwise_discover proper distinct, ascending, higher⟩
  have still : (discover directory later).Pairwise
      fun older newer => older.number < newer.number := by
    have apart : ((discover directory names ++ new).map Segment.number).Nodup := by
      rw [List.Nodup, List.pairwise_map]
      exact sorted.imp Nat.ne_of_lt
    have unsorted := ((perm.map Segment.number).nodup_iff.mpr apart)
    rw [discover_eq_sorted all] at unsorted ⊢
    exact pairwise_sorted_lt (((sorted_perm _).map Segment.number).nodup_iff.mp unsorted)
  exact eq_of_ascending still sorted fun segment => perm.mem_iff

end Segment

/-!
### Giving out numbers
-/

namespace Catalog

open QueryJournal.Segment (Fits listed parse? readable)

/-- What can be done with an index. -/
inductive Change where
  | allocate (now : Instant)
  | activate (segment : Segment)
  | commit (length : Nat)
  | closeActive
  | prune (kept : Option Nat)
  | takeAll

/-- The index after a change, and the segment that got a number. -/
def change (directory : String) (catalog : Catalog) : Change → Option Segment × Catalog
  | .allocate now =>
    let (segment, catalog) := catalog.allocate directory now
    (some segment, catalog)
  | .activate segment => (none, catalog.activate segment)
  | .commit length => (none, catalog.commit length)
  | .closeActive => (none, catalog.closeActive.2)
  | .prune kept => (none, (catalog.prune kept).2)
  | .takeAll => (none, catalog.takeAll.2)

/-- The segments that get numbers while an index changes, in their order. -/
def allocated (directory : String) : Catalog → List Change → List Segment
  | _, [] => []
  | catalog, change :: changes =>
    let changed := catalog.change directory change
    changed.1.toList ++ allocated directory changed.2 changes

variable {directory : String} {catalog : Catalog} {changes : List Change} {segment : Segment}

/-- A change gives out the next number, or none. -/
theorem change_cases (directory : String) (catalog : Catalog) (change : Change) :
    (∃ now, change = .allocate now ∧
      (catalog.change directory change).1 =
        some (Segment.inDirectory directory catalog.nextNumber now) ∧
      (catalog.change directory change).2.nextNumber = catalog.nextNumber + 1) ∨
    (catalog.change directory change).1 = none ∧
      (catalog.change directory change).2.nextNumber = catalog.nextNumber := by
  cases change with
  | allocate now => exact .inl ⟨now, rfl, rfl, rfl⟩
  | activate segment => exact .inr ⟨rfl, rfl⟩
  | commit length => exact .inr ⟨rfl, rfl⟩
  | closeActive => exact .inr ⟨rfl, nextNumber_closeActive catalog⟩
  | prune kept => exact .inr ⟨rfl, nextNumber_prune catalog kept⟩
  | takeAll => exact .inr ⟨rfl, rfl⟩

/-- A segment that got a number was made at one of the times, with that number or a higher one than
the index had to give. -/
theorem mem_allocated (member : segment ∈ catalog.allocated directory changes) :
    catalog.nextNumber ≤ segment.number ∧ ∃ now, .allocate now ∈ changes ∧
      segment = Segment.inDirectory directory segment.number now := by
  induction changes generalizing catalog with
  | nil => exact absurd member List.not_mem_nil
  | cons change changes ih =>
      rw [allocated, List.mem_append, Option.mem_toList] at member
      rcases catalog.change_cases directory change with ⟨now, rfl, first, next⟩ | ⟨first, next⟩
      · rcases member with here | later
        · rw [first, Option.some.injEq] at here
          subst here
          exact ⟨Nat.le_refl _, now, List.mem_cons_self, rfl⟩
        · obtain ⟨bound, now, listed, known⟩ := ih later
          rw [next] at bound
          exact ⟨Nat.le_of_succ_le bound, now, List.mem_cons_of_mem _ listed, known⟩
      · rcases member with here | later
        · rw [first] at here
          contradiction
        · obtain ⟨bound, now, listed, known⟩ := ih later
          rw [next] at bound
          exact ⟨bound, now, List.mem_cons_of_mem _ listed, known⟩

theorem pairwise_allocated (directory : String) (catalog : Catalog) (changes : List Change) :
    (catalog.allocated directory changes).Pairwise
      fun older newer => older.number < newer.number := by
  induction changes generalizing catalog with
  | nil => exact .nil
  | cons change changes ih =>
      rw [allocated]
      rcases catalog.change_cases directory change with ⟨now, rfl, first, next⟩ | ⟨first, -⟩
      · simp only [first]
        rw [Option.toList_some, List.singleton_append, List.pairwise_cons]
        refine ⟨fun later member => ?_, ih _⟩
        have bound := (mem_allocated member).1
        rw [next] at bound
        exact bound
      · simp only [first]
        exact ih _

/-- What gets a number that fits is read back from its name, and comes after all that was found. -/
theorem allocated_readBack {listing : List Bytes} {made : Segment}
    (years : ∀ now, .allocate now ∈ changes → 0 ≤ now.date.year ∧ now.date.year ≤ 9999)
    (below : made.number < Numeral.wordLimit - 1)
    (member : made ∈ (ofExisting (listed directory listing)).allocated directory changes) :
    Path.IsName made.name ∧ parse? (Path.join directory made.name) = some made ∧
      ∀ found ∈ listed directory listing, found.number < made.number := by
  obtain ⟨bound, now, change, same⟩ := mem_allocated member
  have fits : Fits made.number now.truncated :=
    { word := Nat.lt_of_lt_of_le below (Nat.sub_le _ _)
      whole := rfl
      year := years now change }
  rw [same, Segment.name_inDirectory]
  refine ⟨Segment.isName_fileName _ _, ?_, fun found there => ?_⟩
  · rw [← Segment.name_inDirectory directory]
    exact Segment.parse?_inDirectory fits
  · exact Nat.lt_of_lt_of_le (lt_nextNumber_ofExisting there) bound

/-- Whoever opens a directory finds exactly the segments whose names can be read, in the order of
their numbers and each once. As long as numbers and times fit in names, a segment that gets a number
from then on has a higher one than all that were found and all that got theirs before, its name is
none of the directory, and with it and any of those in the directory it is found last. -/
theorem allocated_found_last {listing : List Bytes}
    (proper : ∀ name ∈ readable listing, Path.IsName name)
    (distinct : (((readable listing).filterMap fun name =>
      parse? (Path.join directory name)).map Segment.number).Nodup)
    (years : ∀ now, .allocate now ∈ changes → 0 ≤ now.date.year ∧ now.date.year ≤ 9999)
    (below : ∀ segment ∈ (ofExisting (listed directory listing)).allocated directory changes,
      segment.number < Numeral.wordLimit - 1) :
    (∀ segment, segment ∈ listed directory listing ↔
      ∃ name ∈ readable listing, parse? (Path.join directory name) = some segment) ∧
    ((listed directory listing).map Segment.name).Perm
      ((readable listing).filter fun name => (parse? (Path.join directory name)).isSome) ∧
    ((listed directory listing).Pairwise fun older newer => older.number < newer.number) ∧
    ∀ earlier segment rest,
      (ofExisting (listed directory listing)).allocated directory changes =
          earlier ++ segment :: rest →
        (∀ known ∈ listed directory listing ++ earlier, known.number < segment.number) ∧
        Utf8.ofString segment.name ∉ listing ∧
        ∀ kept again, kept.Sublist earlier →
          again.Perm
              (listing ++ ((kept ++ [segment]).map Segment.name).map Utf8.ofString) →
            listed directory again = listed directory listing ++ kept ++ [segment] := by
  have known : ∀ segment, segment ∈ listed directory listing ↔
      ∃ name ∈ readable listing, parse? (Path.join directory name) = some segment := by
    intro segment
    rw [listed, Segment.discover_eq_sorted proper, (Segment.sorted_perm _).mem_iff,
      List.mem_filterMap]
  refine ⟨known, Segment.map_name_discover proper, Segment.pairwise_discover proper distinct, ?_⟩
  intro earlier segment rest split
  have ascending := (ofExisting (listed directory listing)).pairwise_allocated directory changes
  have own : ∀ made ∈ earlier ++ segment :: rest, Path.IsName made.name ∧
      parse? (Path.join directory made.name) = some made ∧
        ∀ found ∈ listed directory listing, found.number < made.number := by
    intro made member
    rw [← split] at member
    exact allocated_readBack years (below made member) member
  rw [split, List.pairwise_append, List.pairwise_cons] at ascending
  obtain ⟨before, ⟨_, _⟩, behind⟩ := ascending
  have here : segment ∈ earlier ++ segment :: rest :=
    List.mem_append_right _ List.mem_cons_self
  refine ⟨?_, ?_, ?_⟩
  · intro other member
    rcases List.mem_append.mp member with found | first
    · exact (own segment here).2.2 other found
    · exact behind other first segment List.mem_cons_self
  · intro taken
    have found := (known segment).mpr ⟨_, Segment.mem_readable taken, (own segment here).2.1⟩
    exact Nat.lt_irrefl _ ((own segment here).2.2 segment found)
  · intro kept again fewer added
    have made : ∀ made ∈ kept ++ [segment], made ∈ earlier ++ segment :: rest := by
      intro made member
      rcases List.mem_append.mp member with first | last
      · exact List.mem_append_left _ (fewer.subset first)
      · exact List.mem_singleton.mp last ▸ here
    rw [List.append_assoc]
    refine Segment.discover_appended proper distinct (fun other member => ?_) ?_ ?_
      (Segment.readable_perm added)
    · exact ⟨(own other (made other member)).1, (own other (made other member)).2.1⟩
    · exact fun found there other member => (own other (made other member)).2.2 found there
    · rw [List.pairwise_append]
      refine ⟨before.sublist fewer, List.pairwise_singleton _ _, ?_⟩
      intro older first newer last
      rw [List.mem_singleton.mp last]
      exact behind older (fewer.subset first) segment List.mem_cons_self

/-- Names of segments in another order than their numbers, of another file, and of no text. -/
def mixedListing : List Bytes :=
  ["querylog-00000010-20240102T030405Z.jsonl", "querylog-9-20240102T030405Z.jsonl",
    "notes.txt"].map Utf8.ofString ++ [[0xFF]]

theorem allocated_found_last_mixed :
    ∃ segment, (ofExisting (listed "log" mixedListing)).allocated "log" [.allocate default] =
        [segment] ∧
      segment.number = 11 ∧
        listed "log" (mixedListing ++ [Utf8.ofString segment.name]) =
          listed "log" mixedListing ++ [segment] := by
  have names : readable mixedListing =
      ["querylog-00000010-20240102T030405Z.jsonl", "querylog-9-20240102T030405Z.jsonl",
        "notes.txt"] := by
    decide +kernel
  have proper : ∀ name ∈ readable mixedListing, Path.IsName name := by
    rw [names]
    simp [Path.IsName]
  obtain ⟨ten, readTen, numberTen⟩ := Option.map_eq_some_iff.mp
    (by decide +kernel :
      (parse? (Path.join "log" "querylog-00000010-20240102T030405Z.jsonl")).map Segment.number =
        some 10)
  obtain ⟨nine, readNine, numberNine⟩ := Option.map_eq_some_iff.mp
    (by decide +kernel :
      (parse? (Path.join "log" "querylog-9-20240102T030405Z.jsonl")).map Segment.number = some 9)
  have notes : parse? (Path.join "log" "notes.txt") = none := by decide +kernel
  have read : (readable mixedListing).filterMap (fun name => parse? (Path.join "log" name)) =
      [ten, nine] := by
    rw [names]
    simp only [List.filterMap_cons, readTen, readNine, notes, List.filterMap_nil]
  have found : listed "log" mixedListing = [nine, ten] := by
    rw [listed, Segment.discover_eq_sorted proper, read]
    simp [Segment.sorted, List.mergeSort, List.MergeSort.Internal.splitInTwo, numberTen,
      numberNine]
  have allocated : (ofExisting (listed "log" mixedListing)).allocated "log" [.allocate default] =
      [Segment.inDirectory "log" 11 default] := by
    rw [found]
    simp [Catalog.allocated, change, allocate, ofExisting, Segment.sorted, List.mergeSort,
      List.MergeSort.Internal.splitInTwo, numberTen, numberNine]
  have years : ∀ now, Change.allocate now ∈ [Change.allocate default] →
      0 ≤ now.date.year ∧ now.date.year ≤ 9999 := by
    intro now member
    cases List.mem_singleton.mp member
    decide +kernel
  have last := (allocated_found_last proper (by simp [read, numberTen, numberNine]) years
    ?_).2.2.2 [] _ [] allocated
  · exact ⟨_, allocated, rfl, by simpa using last.2.2 [] _ (.refl []) (.refl _)⟩
  · rw [allocated]
    simp [Segment.inDirectory, Numeral.wordLimit, UInt64.size]

end Catalog

end QueryJournal
