import QueryJournal.Proofs.Text.Blank
import QueryJournal.Proofs.Text.Numeral
import QueryJournal.Proofs.Time.Text
import QueryJournal.Segment.Basic

namespace QueryJournal

open QueryJournal.Text (strip? stripEnd?)
open QueryJournal.Time (Instant)

/-!
The names of segments. A segment that was made in a year of four digits is found again under its
name, with the number and the time that it was made with. In other years its name cannot be read.
-/

/-!
### Paths
-/

namespace Path

variable {directory name : String}

/-- A name that can stand in a directory: it is one part of a path, and leads down. -/
def IsName (name : String) : Prop :=
  '/' ∉ name.toList ∧ name.toList ≠ [] ∧ name.toList ≠ ['.'] ∧ name.toList ≠ ['.', '.']

theorem parts_of_isName (proper : IsName name) : parts name.toList = [name.toList] := by
  obtain ⟨plain, present, notHere, _⟩ := proper
  rw [parts, List.splitOn_eq_singleton plain]
  simp [present, notHere]

theorem parts_append_slash (place : List Char) (proper : IsName name) :
    parts (place ++ '/' :: name.toList) = parts place ++ [name.toList] := by
  have last := parts_of_isName proper
  rw [parts] at last
  rw [parts, List.splitOn_append_cons_self, List.filter_append, last, parts]

/-- The last part of the path of a name is the name. -/
theorem getLast?_parts_join (proper : IsName name) :
    (parts (join directory name).toList).getLast? = some name.toList := by
  simp only [join]
  split
  · rw [parts_of_isName proper]
    rfl
  · split
    · rename_i slash
      obtain ⟨place, whole⟩ := List.getLast?_eq_some_iff.mp (eq_of_beq slash)
      rw [String.toList_append, whole, List.append_assoc, List.singleton_append,
        parts_append_slash place proper, List.getLast?_concat]
    · rw [String.toList_append, String.toList_append, List.append_assoc]
      change (parts (directory.toList ++ '/' :: name.toList)).getLast? = _
      rw [parts_append_slash _ proper, List.getLast?_concat]

theorem fileName?_join (proper : IsName name) :
    fileName? (join directory name).toList = some name.toList := by
  rw [fileName?, getLast?_parts_join proper]
  simp [proper.2.2.2]

end Path

namespace Segment

variable {directory name : String} {names : List String} {segment : Segment} {number : Nat}
  {created : Instant}

/-- A name without a slash that looks like a segment is a proper one. -/
theorem isName_of_isCandidate (plain : '/' ∉ name.toList) (candidate : isCandidate name = true) :
    Path.IsName name := by
  rw [isCandidate, Option.isSome_iff_exists] at candidate
  obtain ⟨rest, found⟩ := candidate
  have start := Text.strip?_eq_some found
  refine ⟨plain, ?_, ?_, ?_⟩
  all_goals
    intro other
    rw [start] at other
    simp [nameStart] at other

theorem parse?_join (proper : Path.IsName name) :
    parse? (Path.join directory name) =
      (parseName? name.toList).map fun read =>
        { number := read.1, created := read.2, path := Path.join directory name } := by
  rw [parse?, Path.fileName?_join proper]
  cases read : parseName? name.toList with
  | none => simp [read]
  | some found => simp [read]

theorem name_of_path (proper : Path.IsName name) (path : segment.path = Path.join directory name) :
    segment.name = name := by
  rw [Segment.name, path, Path.fileName?_join proper, Option.getD_some, String.ofList_toList]

theorem name_of_parse? (proper : Path.IsName name)
    (read : parse? (Path.join directory name) = some segment) : segment.name = name := by
  rw [parse?_join proper, Option.map_eq_some_iff] at read
  obtain ⟨_, _, rfl⟩ := read
  exact name_of_path proper rfl

/-!
### The name of a new segment
-/

/-- The numbers and times that the name of a segment can hold. -/
structure Fits (number : Nat) (created : Instant) : Prop where
  word : number < Numeral.wordLimit
  whole : created.nanos = 0
  year : 0 ≤ created.date.year ∧ created.date.year ≤ 9999

theorem word?_padded (width number : Nat) :
    Numeral.word? (Numeral.padded width 10 number) =
      (some number).filter (· < Numeral.wordLimit) := by
  have unsigned : '+' ∉ Numeral.padded width 10 number :=
    Numeral.not_mem_padded (by decide) width number
  rw [Numeral.word?, Numeral.natural?_padded]
  intro rest plus
  rw [plus] at unsigned
  exact unsigned List.mem_cons_self

theorem toList_fileName (number : Nat) (created : Instant) :
    (fileName number created).toList =
      nameStart.toList ++ ((Numeral.padded 8 10 number ++ '-' :: Time.stampText created) ++
        nameEnd.toList) := by
  rw [fileName, String.toList_ofList]
  simp only [List.append_assoc, List.cons_append, List.nil_append]

theorem digit_ne_dash (width number : Nat) :
    ∀ c ∈ Numeral.padded width 10 number, (c != '-') = true := by
  intro c member
  rw [bne_iff_ne]
  rintro rfl
  exact Numeral.not_mem_padded (by decide) width number member

/-- The first dash ends the number of a segment, also where the year has a sign. -/
theorem takeWhile_numbered (width number : Nat) (stamp : List Char) :
    (Numeral.padded width 10 number ++ '-' :: stamp).takeWhile (· != '-') =
      Numeral.padded width 10 number := by
  rw [List.takeWhile_append_of_pos (digit_ne_dash width number)]
  simp

theorem dropWhile_numbered (width number : Nat) (stamp : List Char) :
    (Numeral.padded width 10 number ++ '-' :: stamp).dropWhile (· != '-') = '-' :: stamp := by
  rw [List.dropWhile_append_of_pos (digit_ne_dash width number)]
  simp

/-- The number and the time of a name are read one after the other. -/
theorem parseName?_fileName (number : Nat) (created : Instant) :
    parseName? (fileName number created).toList =
      ((some number).filter (· < Numeral.wordLimit)).bind fun read =>
        (Time.parseStamp? (Time.stampText created)).map fun stamp => (read, stamp) := by
  rw [parseName?, toList_fileName, Text.strip?_append]
  simp only [Option.bind_eq_bind, Option.bind_some, Text.stripEnd?_append, takeWhile_numbered,
    dropWhile_numbered, word?_padded, Option.map_eq_bind]
  rfl

/-- A name tells its number, whatever time it was made at. -/
theorem number_of_fileName {other : Nat} {later : Instant}
    (same : fileName number created = fileName other later) : number = other := by
  have texts := congrArg String.toList same
  rw [toList_fileName, toList_fileName] at texts
  have stems := List.append_cancel_right (List.append_cancel_left texts)
  have fronts := congrArg (List.takeWhile (· != '-')) stems
  rw [takeWhile_numbered, takeWhile_numbered] at fronts
  have numbers := congrArg Numeral.natural? fronts
  rw [Numeral.natural?_padded, Numeral.natural?_padded] at numbers
  exact Option.some.inj numbers

theorem parseName?_of_fits (fits : Fits number created) :
    parseName? (fileName number created).toList = some (number, created) := by
  rw [parseName?_fileName, Option.filter_some_pos (by simpa using fits.word),
    Time.parseStamp?_stampText created fits.whole fits.year]
  rfl

theorem isCandidate_fileName (number : Nat) (created : Instant) :
    isCandidate (fileName number created) = true := by
  rw [isCandidate, toList_fileName, Text.strip?_append]
  rfl

theorem not_mem_stampText (instant : Instant) : '/' ∉ Time.stampText instant := by
  have digits : ∀ width number, '/' ∉ Numeral.padded width 10 number :=
    Numeral.not_mem_padded (by decide)
  have year : '/' ∉ Time.yearText instant.date.year := by
    rw [Time.yearText]
    split
    · exact digits _ _
    · split <;> simp [digits]
  simp [Time.stampText, Time.twoDigits, year, digits]

theorem isName_fileName (number : Nat) (created : Instant) :
    Path.IsName (fileName number created) := by
  have digits : '/' ∉ Numeral.padded 8 10 number := Numeral.not_mem_padded (by decide) 8 number
  refine isName_of_isCandidate ?_ (isCandidate_fileName number created)
  rw [toList_fileName]
  simp [nameStart, nameEnd, digits, not_mem_stampText]

theorem name_inDirectory (directory : String) (number : Nat) (time : Instant) :
    (inDirectory directory number time).name = fileName number time.truncated :=
  name_of_path (isName_fileName _ _) rfl

theorem parse?_inDirectory {time : Instant} (fits : Fits number time.truncated) :
    parse? (Path.join directory (inDirectory directory number time).name) =
      some (inDirectory directory number time) := by
  rw [name_inDirectory, parse?_join (isName_fileName _ _), parseName?_of_fits fits]
  rfl

/-- The name of a segment of a year with a sign cannot be read. -/
theorem parseName?_signed (number : Nat)
    (long : ¬ (0 ≤ created.date.year ∧ created.date.year ≤ 9999)) :
    parseName? (fileName number created).toList = none := by
  rw [parseName?_fileName, Time.parseStamp?_stampText_signed created long]
  exact Option.bind_fun_none _

/-- Whatever time a new segment has, it is found under its number or not at all. -/
theorem number_of_parse? {time : Instant}
    (read : parse? (Path.join directory (inDirectory directory number time).name) =
      some segment) : segment.number = number := by
  rw [name_inDirectory, parse?_join (isName_fileName _ _), parseName?_fileName,
    Option.map_eq_some_iff] at read
  obtain ⟨parts, read, rfl⟩ := read
  obtain ⟨word, filtered, stamped⟩ := Option.bind_eq_some_iff.mp read
  obtain ⟨stamp, _, rfl⟩ := Option.map_eq_some_iff.mp stamped
  exact (Option.some.inj (Option.filter_eq_some_iff.mp filtered).1).symm

/-- A new segment is known by its path if its year has four digits, and is not known at all
otherwise. The names of different numbers differ. -/
theorem made_readBack_in_four_digit_years (directory : String) (number : Nat) (time : Instant)
    (word : number < 2 ^ 64) :
    (parse? (inDirectory directory number time).path =
      if 0 ≤ time.date.year ∧ time.date.year ≤ 9999 then
        some
          { number
            created := time.truncated
            path := (inDirectory directory number time).path }
      else none) ∧
    (inDirectory directory number time).name = fileName number time.truncated ∧
    ∀ (other : Nat) (created later : Instant), other ≠ number →
      fileName other later ≠ fileName number created := by
  have place : (inDirectory directory number time).path =
      Path.join directory (inDirectory directory number time).name := by
    rw [name_inDirectory]
    rfl
  refine ⟨(congrArg parse? place).trans ?_, name_inDirectory directory number time, ?_⟩
  · split
    · rename_i four
      have fits : Fits number time.truncated := ⟨word, rfl, four⟩
      exact parse?_inDirectory fits
    · rename_i long
      have signed : parseName? (fileName number time.truncated).toList = none :=
        parseName?_signed number long
      rw [name_inDirectory, parse?_join (isName_fileName _ _), signed]
      rfl
  · intro other created later different same
    exact different (number_of_fileName same)

/-- The last year that a name holds ends with a leap second. -/
theorem made_readBack_at_the_last_year :
    2 ^ 64 - 1 < 2 ^ 64 ∧
    parse? (inDirectory "/q" (2 ^ 64 - 1)
        ⟨253402300799, 1999999999, by decide, by decide, by decide⟩).path =
      some
        { number := 2 ^ 64 - 1
          created := ⟨253402300799, 0, by decide, by decide, by decide⟩
          path := "/q/querylog-18446744073709551615-99991231T235959Z.jsonl" } ∧
    parse? (inDirectory "/q" (2 ^ 64 - 1)
        ⟨253402300800, 0, by decide, by decide, by decide⟩).path = none ∧
    fileName 99999999 Instant.epoch ≠ fileName (2 ^ 64 - 1) Instant.epoch := by
  have word : 2 ^ 64 - 1 < 2 ^ 64 := by decide
  obtain ⟨inside, -, apart⟩ := made_readBack_in_four_digit_years "/q" (2 ^ 64 - 1)
    ⟨253402300799, 1999999999, by decide, by decide, by decide⟩ word
  have outside := (made_readBack_in_four_digit_years "/q" (2 ^ 64 - 1)
    ⟨253402300800, 0, by decide, by decide, by decide⟩ word).1
  have path : (inDirectory "/q" (2 ^ 64 - 1)
      ⟨253402300799, 1999999999, by decide, by decide, by decide⟩).path =
        "/q/querylog-18446744073709551615-99991231T235959Z.jsonl" := by
    decide +kernel
  rw [if_pos (by decide), path] at inside
  rw [if_neg (by decide)] at outside
  rw [path]
  exact ⟨word, inside, outside, apart 99999999 _ _ (by decide)⟩

/-!
### The segments in a directory
-/

theorem mem_discover : segment ∈ discover directory names ↔
    ∃ name ∈ names, isCandidate name = true ∧
      parse? (Path.join directory name) = some segment := by
  rw [discover, sorted, (List.mergeSort_perm _ _).mem_iff]
  simp only [List.mem_filterMap, List.mem_filter, and_assoc]

theorem sorted_perm (segments : List Segment) : (sorted segments).Perm segments :=
  List.mergeSort_perm _ _

theorem pairwise_sorted (segments : List Segment) :
    (sorted segments).Pairwise fun left right => left.number ≤ right.number := by
  have ordered : (sorted segments).Pairwise
      fun left right => decide (left.number ≤ right.number) = true := by
    refine List.pairwise_mergeSort (fun first second third before after => ?_)
      (fun left right => ?_) segments
    · simp only [decide_eq_true_eq] at before after ⊢
      exact Nat.le_trans before after
    · simp only [Bool.or_eq_true, decide_eq_true_eq]
      exact Nat.le_total _ _
  exact ordered.imp fun before => of_decide_eq_true before

/-- Segments with different numbers are sorted in one way only. -/
theorem pairwise_sorted_lt {segments : List Segment}
    (distinct : (segments.map Segment.number).Nodup) :
    (sorted segments).Pairwise fun left right => left.number < right.number := by
  have apart : ((sorted segments).map Segment.number).Nodup :=
    (((sorted_perm segments).map Segment.number).nodup_iff).mpr distinct
  rw [List.Nodup, List.pairwise_map] at apart
  exact ((pairwise_sorted segments).and apart).imp fun both => Nat.lt_of_le_of_ne both.1 both.2

end Segment

end QueryJournal
