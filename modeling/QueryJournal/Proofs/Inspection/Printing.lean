import QueryJournal.Proofs.Inspection.Looking
import QueryJournal.Proofs.Journal.Succession
import QueryJournal.Proofs.Record.Host

namespace QueryJournal

open QueryJournal.Backward (maxLineLength)
open QueryJournal.Search (entryOf? itemsOf)
open QueryJournal.Segment (AllWritten IsTidy IsWritten found linesIn storedLines)
open QueryJournal.Storage
open QueryJournal.Utf8 (Bytes)

/-!
What is printed of the records in a directory. As objects, one a line, they are the very bytes that
lie in the files, the newest first; for people, each of them is one line whatever was asked for.
-/

namespace Inspection

variable {disk : Disk} {segments : List Segment} {entry : Entry} {entries : List Entry}
  {left right : List Char} {configuration : Configuration} {place : Option String}
  {policy : Policy} {directory? : String → Option Disk} {clock : Search.Clock}
  {options : SearchOptions} {exchange : Exchange} {masks : Bool} {time : Time.Instant}

/-!
### Records as they lie in files
-/

/-- Lines of segments that hold whole lines are those of some records, and reading the segments
backwards finds these lines. -/
theorem exists_records (written : ∀ segment ∈ segments, IsWritten disk segment) :
    ∃ entries : List Entry, segments.flatMap (linesIn disk) = entries.map Entry.lineBody ∧
      ((∀ entry ∈ entries, entry.lineBody.length ≤ maxLineLength) →
        closedItems disk segments =
          entries.reverse.map fun entry => .line entry.lineBody) := by
  induction segments with
  | nil => exact ⟨[], rfl, fun _ => rfl⟩
  | cons segment segments ih =>
      obtain ⟨later, laterLines, laterItems⟩ :=
        ih fun other member => written other (List.mem_cons_of_mem _ member)
      obtain ⟨identity, entries, placed⟩ := written segment List.mem_cons_self
      refine ⟨entries ++ later, ?_, fun short => ?_⟩
      · rw [List.flatMap_cons, laterLines, Segment.linesIn_of_file placed, List.map_append]
      · have first : closedItems disk (segment :: segments) =
            closedItems disk segments ++ closedItems disk [segment] :=
          closedItems_append disk [segment] segments
        have own : closedItems disk [segment] =
            entries.reverse.map fun entry => .line entry.lineBody := by
          have target : Journal.reader? disk { segment, limit := none } =
              some (.ofContent (Entry.lines entries) none) := reader?_file placed
          have items := @Entry.items_lines entries (Entry.lines entries) none
            (fun entry member => short entry (List.mem_append_left _ member)) rfl
          simpa [closedItems, target, itemsOf] using items
        rw [first, own, laterItems fun entry member =>
          short entry (List.mem_append_right _ member), List.reverse_append, List.map_append]

/-- Records are printed as objects with the bytes that they have in files. -/
theorem ofString_entryLines (entries : List Entry) :
    Utf8.ofString (entryLines .lines entries) = Entry.lines entries := by
  rw [Utf8.ofString, entryLines, String.toList_ofList, Utf8.encode, List.flatMap_assoc]
  refine List.flatMap_congr fun entry _ => ?_
  rw [entryLine, Entry.line, List.flatMap_append]
  rfl

/-- Whoever opens a directory to look at it and searches it is shown lines, the last one first, and
reads the records that were found from them. -/
def Prints (configuration : Configuration) (place : Option String)
    (directory? : String → Option Disk) (clock : Search.Clock) (options : SearchOptions)
    (lines : List Bytes) : Prop :=
  ∃ opened report printed,
    openLog configuration place directory? = .ok opened ∧
      opened.journal.search clock (options.request (clock 0)) opened.disk = .ok report ∧
        search clock options opened = .ok printed ∧
          Utf8.ofString printed.output = lines.reverse.flatMap (· ++ [Entry.newline]) ∧
            ((Utf8.ofString printed.output).splitOn Entry.newline).dropLast.mapM Entry.ofLine? =
              some report.page.entries

/-- A search for everything prints the lines that lie in the segments. -/
theorem prints_of_written (valid : (configuration.inspectionSettings place).check = .ok policy)
    (present : directory? policy.directory = some disk) (usable : disk.IsUsable)
    (written : AllWritten policy.directory disk)
    (short : ∀ line ∈ storedLines policy.directory disk, line.length ≤ maxLineLength)
    (objects : options.form = .lines)
    (unbounded :
      (options.request (clock 0)).Unbounded (storedLines policy.directory disk).length) :
    Prints configuration place directory? clock options (storedLines policy.directory disk) := by
  have looks : policy.LooksAt policy.directory := { looksAt_of_check valid with directory := rfl }
  have opened : openLog configuration place directory? =
      .ok
        { journal := Journal.openedOn policy disk
          disk
          events := openingEvents policy.directory disk } := by
    rw [openLog_of_check valid, present]
    simp only [Disk.list_of_isUsable usable]
  obtain ⟨entries, lines, items⟩ := exists_records written
  have lines : storedLines policy.directory disk = entries.map Entry.lineBody := lines
  rw [lines] at short unbounded ⊢
  have items := items fun entry member => short _ (List.mem_map_of_mem member)
  have ascending : (found policy.directory disk).Pairwise fun older newer =>
      older.number ≤ newer.number := Segment.pairwise_sorted _
  have sorted : Segment.sorted (found policy.directory disk) = found policy.directory disk :=
    List.mergeSort_of_pairwise (by simpa using ascending)
  have files : ((Catalog.ofExisting (found policy.directory disk)).scanPlan.map
      (Journal.reader? disk)).flatMap itemsOf =
        entries.reverse.map fun entry => .line entry.lineBody := by
    rw [← items, closedItems]
    simp only [Catalog.ofExisting, Catalog.scanPlan, Option.map_none, Option.toList_none,
      List.nil_append, sorted, List.flatMap_map]
  have read := Entry.filterMap_lineItems entries.reverse
  rw [← files] at read
  have page := congrArg Search.Page.entries
    (Search.page_run_unbounded clock [] _ read (by simpa using unbounded))
  simp only [List.nil_append] at page
  have answered := looks.search_openedOn clock (options.request (clock 0)) disk disk
  refine ⟨_, _, _, opened, answered, by rw [search, answered], ?_, ?_⟩
  all_goals
    rw [objects, page, ofString_entryLines]
  · rw [← List.map_reverse, List.flatMap_map]
    rfl
  · rw [Entry.lines, Entry.splitOn_flatMap_line, List.dropLast_concat]
    exact Entry.mapM_ofLine?_lineBody entries.reverse

/-!
### One line for people
-/

/-- A text of blanks and of visible characters of ASCII, none of which ends a line. -/
def IsLine (text : List Char) : Prop :=
  ∀ c ∈ text, 0x20 ≤ c.toNat ∧ c.toNat ≤ 0x7E

instance (text : List Char) : Decidable (IsLine text) :=
  List.decidableBAll (fun c : Char => 0x20 ≤ c.toNat ∧ c.toNat ≤ 0x7E) text

theorem IsLine.append (first : IsLine left) (second : IsLine right) : IsLine (left ++ right) := by
  intro c member
  rcases List.mem_append.mp member with inLeft | inRight
  · exact first c inLeft
  · exact second c inRight

theorem isLine_of_digits {radix : Nat} {text : List Char} (bounded : radix ≤ 16)
    (digits : ∀ c ∈ text, ∃ digit < radix, c = Numeral.digitChar digit) : IsLine text := by
  have visible : ∀ digit < 16,
      0x20 ≤ (Numeral.digitChar digit).toNat ∧ (Numeral.digitChar digit).toNat ≤ 0x7E := by
    decide
  intro c member
  obtain ⟨digit, small, rfl⟩ := digits c member
  exact visible digit (Nat.lt_of_lt_of_le small bounded)

theorem isLine_padded (width number : Nat) : IsLine (Numeral.padded width 10 number) :=
  isLine_of_digits (by decide) fun _ => Numeral.mem_padded (by decide)

theorem isLine_decimal (number : Nat) : IsLine (Numeral.decimal number) :=
  isLine_of_digits (by decide) fun _ => Numeral.mem_digits (by decide)

theorem isLine_padEnd (width : Nat) (line : IsLine left) : IsLine (padEnd width left) := by
  refine line.append fun c member => ?_
  rw [(List.mem_replicate.mp member).2]
  decide

theorem isLine_displayText (time : Time.Instant) : IsLine (Time.displayText time).toList := by
  have year : IsLine (Time.yearText time.date.year) := by
    rw [Time.yearText]
    split
    · exact isLine_padded _ _
    · refine IsLine.append ?_ (isLine_padded _ _)
      split <;> decide
  rw [Time.displayText, String.toList_ofList, Time.dateText, Time.clockText]
  repeat' with_reducible apply IsLine.append
  all_goals first
    | exact year
    | exact isLine_padded _ _
    | decide

theorem isLine_dotted (a b c d : UInt8) : IsLine (Address.dotted a b c d) := by
  rw [Address.dotted]
  repeat' with_reducible apply IsLine.append
  all_goals first
    | exact isLine_decimal _
    | decide

theorem isLine_joined (groups : List UInt16) : IsLine (Address.joined groups) := by
  induction groups with
  | nil => exact fun _ member => absurd member List.not_mem_nil
  | cons group groups ih =>
      have own : IsLine (Address.groupText group) :=
        isLine_of_digits (by decide) fun _ => Numeral.mem_digits (by decide)
      cases groups with
      | nil => exact Address.joined_singleton group ▸ own
      | cons next groups =>
          rw [Address.joined_cons_cons, ← List.singleton_append]
          exact own.append (IsLine.append (by decide) ih)

theorem isLine_chars (address : Address) : IsLine address.chars := by
  cases address with
  | v4 a b c d => exact isLine_dotted a b c d
  | v6 groups =>
      rw [Address.chars, Address.groupsText.eq_def]
      split
      · refine IsLine.append ?_ (isLine_dotted _ _ _ _)
        decide
      · split
        split
        · refine ((isLine_joined _).append ?_).append (isLine_joined _)
          decide
        · exact isLine_joined _

theorem isLine_typeName (number : UInt16) : IsLine (Dns.typeName number).toList := by
  have registered : ∀ pair ∈ Dns.typeNames, IsLine pair.2.toList := by decide
  rw [Dns.typeName]
  cases known : Dns.typeNames.lookup number with
  | none => decide
  | some name =>
      obtain ⟨earlier, later, whole, _⟩ := List.lookup_eq_some_iff.mp known
      exact registered (number, name) (by simp [whole])

theorem isLine_recordedHost (name : Dns.Name) :
    IsLine (Exchange.recordedHost name).toList := by
  rw [Exchange.recordedHost, String.toList_ofList, Host.normal_text]
  intro c member
  have inside := (List.rdropWhile_prefix _ name.lowered.text).subset member
  have visible := Dns.Name.visible_of_mem_text inside
  omega

/-- Whatever was asked for and whoever asked, a record for people is one line. -/
theorem isLine_entryText (recorded : exchange.record masks time = .ok entry) :
    IsLine (entryText entry) := by
  have transport : ∀ transport : Transport, IsLine transport.name.toList := by
    intro transport
    cases transport <;> decide
  have reason : ∀ reason : Reason, IsLine reason.name.toList := by
    intro reason
    cases reason <;> decide
  have cached : IsLine (if entry.cached then " (cached)".toList else []) := by
    split <;> decide
  obtain ⟨asked, type⟩ := Exchange.question_of_record recorded
  have host : IsLine entry.host.toList := asked ▸ isLine_recordedHost exchange.question.name
  have type : IsLine entry.queryType.toList := type ▸ isLine_typeName exchange.question.type
  have blank : IsLine [' '] := by decide
  have blanks : IsLine [' ', ' '] := by decide
  exact (isLine_displayText _).append blanks
    |>.append (isLine_padEnd 15 (isLine_chars _)) |>.append blank
    |>.append (transport _) |>.append blank
    |>.append (isLine_padEnd 6 type) |>.append blank
    |>.append host |>.append blank
    |>.append (reason _) |>.append cached

/-- What is recorded is printed for people with one line for each record. -/
theorem splitOn_entryLines (lines : ∀ entry ∈ entries, IsLine (entryText entry)) :
    (entryLines .text entries).toList.splitOn '\n' = entries.map entryText ++ [[]] := by
  rw [entryLines, String.toList_ofList]
  refine splitOn_flatMap_concat fun entry member inside => ?_
  have visible := lines entry member _ inside
  revert visible
  decide

/-!
### Everything that is printed
-/

/-- Sessions leave nothing but lines of records in their directory, in the order in which they were
written. A search for everything prints these lines, the last one first, and the records are read
from what is printed. For people, each record is printed as one line, whatever was asked for. -/
theorem printed_records_are_stored :
    (∀ {directory : String} {start : Disk} {written : List Entry} {archive : Archive},
      IsTidy start → start.names.Nodup → start.Numbered →
        ((found directory start).map Segment.number).Nodup → AllWritten directory start →
          Archive.Wrote directory start written archive →
            AllWritten directory archive.disk ∧
              (storedLines directory archive.disk).Sublist
                (storedLines directory start ++ written.map Entry.lineBody)) ∧
    (∀ {configuration : Configuration} {place : Option String} {policy : Policy}
        {directory? : String → Option Disk} {disk : Disk} (clock : Search.Clock)
        {options : SearchOptions},
      (configuration.inspectionSettings place).check = .ok policy →
        directory? policy.directory = some disk → disk.IsUsable →
          AllWritten policy.directory disk →
            (∀ line ∈ storedLines policy.directory disk, line.length ≤ maxLineLength) →
              options.form = .lines →
                (options.request (clock 0)).Unbounded
                    (storedLines policy.directory disk).length →
                  Prints configuration place directory? clock options
                    (storedLines policy.directory disk)) ∧
    ∀ {entries : List Entry},
      (∀ entry ∈ entries, ∃ masks time exchange,
        Exchange.record masks time exchange = .ok entry) →
        (∀ entry ∈ entries, IsLine (entryText entry)) ∧
          (entryLines .text entries).toList.splitOn '\n' = entries.map entryText ++ [[]] := by
  refine ⟨fun tidy single numbered distinct lined wrote => ⟨?_, ?_⟩, ?_, fun recorded => ?_⟩
  · exact wrote.sessions.allWritten tidy single numbered distinct lined
  · exact wrote.storedLines_sublist tidy single numbered distinct
  · intro _ _ _ _ _ clock _ valid present usable written short objects unbounded
    exact prints_of_written valid present usable written short objects unbounded
  · have lines : ∀ entry ∈ _, IsLine (entryText entry) := fun entry member =>
      let ⟨_, _, _, made⟩ := recorded entry member
      isLine_entryText made
    exact ⟨lines, splitOn_entryLines lines⟩

open Archive in
/-- One record is written, and it is printed both ways. -/
theorem printed_records_are_stored_asked : ∃ entry : Entry,
    storedLines plainPolicy.directory ((asked none).perform plainFlush).disk = [entry.lineBody] ∧
      Prints {} (some plainPolicy.directory)
        (fun _ => some ((asked none).perform plainFlush).disk) (fun _ => 0) { scanCap := 0 }
        [entry.lineBody] ∧
      (entryLines .text [entry]).toList.splitOn '\n' = [entryText entry, []] := by
  obtain ⟨entry, same, legible, recorded⟩ : ∃ entry : Entry, asked none = waiting entry ∧
      entry.isLegible = true ∧ ∃ masks time exchange,
        Exchange.record masks time exchange = .ok entry :=
    ⟨_, rfl, by decide +kernel, false, default,
      { question := default, client := default, clientId := none }, rfl⟩
  have reported : (asked none).reports plainFlush = [entry] := same ▸ reports_waiting entry
  have still : ∀ policy, plainFlush.operation ≠ .reopen policy := by simp [plainFlush]
  have timely : (asked none).Timely plainFlush.occasion := same ▸ timely_waiting entry
  obtain ⟨tidy, single, numbered, distinct⟩ := sound_missing plainPolicy.directory
  have nothing : found plainPolicy.directory {} = [] := by
    simp [found, Segment.discover, Segment.sorted, Disk.names, Disk.folder?, Folder.names]
  have added : Wrote plainPolicy.directory {} _ (asked none) :=
    .performed (.first rfl openOn_missing) (by simp) (by simp [Operation.isUpkeep])
      { year := by decide, number := by decide }
  have wrote : Wrote plainPolicy.directory {} [entry] ((asked none).perform plainFlush) := by
    have flushed := added.performed still (fun _ => rfl) timely
    rwa [reported] at flushed
  obtain ⟨left, printed, lined⟩ := printed_records_are_stored
  obtain ⟨written, ordered⟩ :=
    left tidy single numbered distinct (by simp [AllWritten, nothing]) wrote
  -- The record is there, so it is all that is there.
  have stored : storedLines plainPolicy.directory ((asked none).perform plainFlush).disk =
      [entry.lineBody] := by
    obtain ⟨segment, landed⟩ := (registered_asked none).landed still timely
      (by simp [plainFlush, Operation.isRotation]) (by simp [reported])
    have later := wrote.sessions.registered tidy single numbered distinct
    have there := landed.named.mem_found later.orderly.stocked.tidy landed.lies.mem_names
    obtain ⟨_, _, _, placed⟩ := landed.lies
    have line : entry.lineBody ∈
        storedLines plainPolicy.directory ((asked none).perform plainFlush).disk := by
      refine List.mem_flatMap.mpr ⟨segment, there, ?_⟩
      rw [Segment.linesIn_of_file placed, reported]
      simp
    simp only [storedLines, nothing, List.flatMap_nil, List.nil_append, List.map_cons,
      List.map_nil] at ordered
    rcases List.sublist_singleton.mp ordered with none | one
    · rw [storedLines, none] at line
      cases line
    · exact one
  refine ⟨entry, stored, ?_, (lined (by simpa using recorded)).2⟩
  have usable : ((asked none).perform plainFlush).disk.IsUsable := by
    rw [Disk.IsUsable]
    decide +kernel
  have valid : (({} : Configuration).inspectionSettings (some plainPolicy.directory)).check.isOk =
      true := by decide +kernel
  generalize ((asked none).perform plainFlush).disk = disk at usable written stored ⊢
  cases checked : (({} : Configuration).inspectionSettings (some plainPolicy.directory)).check with
  | error fault =>
      rw [checked] at valid
      exact absurd valid Bool.false_ne_true
  | ok policy =>
      have place : policy.directory = plainPolicy.directory := (looksAt_of_check checked).directory
      rw [← place] at checked written stored
      rw [← stored, ← place]
      refine printed (fun _ => 0) checked rfl usable written ?_ rfl ?_
      · rw [stored]
        simpa [Entry.isLegible] using legible
      · rw [stored]
        exact ⟨rfl, rfl, rfl, rfl, rfl, show 1 ≤ 500 by decide⟩

end Inspection

end QueryJournal
