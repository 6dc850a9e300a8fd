import QueryJournal.Inspection.Program
import QueryJournal.Journal.Upkeep
import QueryJournal.Proofs.Journal.Moves
import QueryJournal.Proofs.Settings.Policy

namespace QueryJournal

open QueryJournal.Segment (found)
open QueryJournal.Storage

/-!
Looking at a log. What is opened to be looked at records nothing, has no upkeep and gives up no
segment, so nobody writes to its directory, and what it answers depends on nothing but that
directory and on what it is asked.
-/

/-- The settings of a log that is opened to be looked at. -/
structure Policy.LooksAt (policy : Policy) (directory : String) : Prop where
  enabled : policy.enabled = false
  fileEnabled : policy.fileEnabled = true
  keptSegments : policy.keptSegments = none
  directory : policy.directory = directory

namespace Policy.LooksAt

variable {policy : Policy} {directory : String} {disk : Disk}

/-- Opening removes nothing, also where it fails. -/
theorem disk_openOn (looks : policy.LooksAt directory) (obstacles : Obstacles) (disk : Disk) :
    (Journal.openOn policy obstacles disk).2 = disk := by
  rw [Journal.openOn]
  dsimp only
  split
  · rfl
  · rw [looks.keptSegments]
    rfl

theorem openOn_eq (looks : policy.LooksAt directory) (obstacles : Obstacles)
    (usable : disk.IsUsable) :
    Journal.openOn policy obstacles disk = (.ok (Journal.openedOn policy disk), disk) := by
  rw [Archive.openOn_pruned looks.fileEnabled usable, looks.keptSegments]
  rfl

theorem upkeep_openOn (looks : policy.LooksAt directory) {obstacles : Obstacles} {clock : Nat}
    {session : Session} (opened : (Session.openOn policy obstacles disk clock).1 = .ok session) :
    session.upkeep = none := by
  rw [Session.openOn, Journal.openOn] at opened
  dsimp only at opened
  split at opened
  · cases opened
  · cases opened
    simp [Session.ofJournal, looks.enabled]

/-- Closing writes nothing and does not fail, whatever became of the directory. -/
theorem close_openedOn (looks : policy.LooksAt directory) (occasion : Occasion)
    (disk later : Disk) :
    ((Journal.openedOn policy disk).close occasion later).answer = .ok () ∧
      ((Journal.openedOn policy disk).close occasion later).disk = later := by
  have going : ¬(Journal.openedOn policy disk).closed = true := Bool.false_ne_true
  have files : (Journal.openedOn policy disk).policy.fileEnabled = true := looks.fileEnabled
  rw [Journal.close, if_neg going, Journal.serveFlush, if_pos files, Journal.flushBuffer]
  exact ⟨rfl, rfl⟩

/-- A search reads the segments that were found at the opening, as they are now. -/
theorem search_openedOn (looks : policy.LooksAt directory) (clock : Search.Clock)
    (request : Search.Request) (disk later : Disk) :
    (Journal.openedOn policy disk).search clock request later =
      .ok (Search.run clock request []
        ((Catalog.ofExisting (found directory disk)).scanPlan.map (Journal.reader? later))) := by
  have going : ¬(Journal.openedOn policy disk).closed = true := Bool.false_ne_true
  have files : (Journal.openedOn policy disk).policy.fileEnabled = true := looks.fileEnabled
  rw [Journal.search, if_neg going, Journal.files, if_pos files, ← looks.directory]
  rfl

theorem segments_openedOn (looks : policy.LooksAt directory) (disk : Disk) :
    (Journal.openedOn policy disk).segments =
      (Catalog.ofExisting (found directory disk)).statuses := by
  rw [← looks.directory]
  rfl

end Policy.LooksAt

namespace Inspection

/-- What is asked of a log that is looked at. -/
inductive Question where
  | search (clock : Search.Clock) (options : SearchOptions)
  | segments

/-- What happens while a log is looked at: it is asked something, or others change its directory. -/
inductive Moment where
  | asked (question : Question)
  | changed (change : Disk → Disk)

def answer (opened : Opened) : Question → Except Problem Printed
  | .search clock options => search clock options opened
  | .segments => .ok (segments opened)

def Moment.pass (disk : Disk) : Moment → Disk
  | .asked _ => disk
  | .changed change => change disk

/-- The answers to what is asked, one after another. -/
def answers (opened : Opened) : List Moment → List (Except Problem Printed)
  | [] => []
  | .asked question :: later => answer opened question :: answers opened later
  | .changed change :: later => answers { opened with disk := change opened.disk } later

/-- What becomes of a log that is looked at: what it answered, how closing it went, and its
directory after that. -/
structure Visit where
  answers : List (Except Problem Printed)
  closing : Except Failure Unit
  disk : Disk

/-- Opens a log to look at it, asks it what there is to ask, and closes it. -/
def visit (configuration : Configuration) (directory : Option String)
    (directory? : String → Option Disk) (moments : List Moment) (occasion : Occasion) :
    Except Problem Visit := do
  let opened ← openLog configuration directory directory?
  let left := { opened with disk := moments.foldl Moment.pass opened.disk }
  pure
    { answers := answers opened moments
      closing := (left.close occasion).answer
      disk := (left.close occasion).disk }

variable {configuration other : Configuration} {directory : Option String} {policy : Policy}
  {disk : Disk} {directory? : String → Option Disk} {moments : List Moment}

theorem looksAt_of_check
    (valid : (configuration.inspectionSettings directory).check = .ok policy) :
    policy.LooksAt (configuration.inDirectory directory).settings.directory := by
  obtain ⟨_, rfl⟩ := Settings.check_eq_ok_iff.mp valid
  exact ⟨rfl, rfl, rfl, rfl⟩

/-- What opening a log to look at it comes to. -/
theorem openLog_of_check
    (valid : (configuration.inspectionSettings directory).check = .ok policy)
    (directory? : String → Option Disk) :
    openLog configuration directory directory? =
      match directory? policy.directory with
      | none => .error (.missingDirectory policy.directory)
      | some disk =>
        match disk.list with
        | .error failure => .error (.opening policy.directory failure)
        | .ok _ =>
          .ok
            { journal := Journal.openedOn policy disk
              disk
              events := openingEvents policy.directory disk } := by
  have looks := looksAt_of_check valid
  have path : (configuration.inspectionSettings directory).directory = policy.directory :=
    looks.directory.symm
  rw [openLog]
  simp only [valid, path]
  cases directory? policy.directory with
  | none => rfl
  | some disk =>
      cases listed : disk.list with
      | error failure => simp only [Journal.openOn, looks.fileEnabled, if_pos, listed]
      | ok names => simp only [listed, looks.openOn_eq .none (Disk.isUsable_of_list listed)]

/-- What a log answers that is looked at is independent of its other settings. -/
theorem answer_openedOn {path : String} {first second : Policy} (looks : first.LooksAt path)
    (alike : second.LooksAt path) (disk later : Disk) (events : List Logging.Event)
    (question : Question) :
    answer { journal := Journal.openedOn first disk, disk := later, events } question =
      answer { journal := Journal.openedOn second disk, disk := later, events } question := by
  cases question with
  | search clock options =>
      simp only [answer, search, looks.search_openedOn, alike.search_openedOn]
  | segments =>
      simp only [answer, segments, looks.segments_openedOn, alike.segments_openedOn]

theorem answer_ok {path : String} (looks : policy.LooksAt path) (disk later : Disk)
    (events : List Logging.Event) (question : Question) :
    ∃ printed,
      answer { journal := Journal.openedOn policy disk, disk := later, events } question =
        .ok printed := by
  cases question with
  | search clock options =>
      simp only [answer, search, looks.search_openedOn]
      exact ⟨_, rfl⟩
  | segments => exact ⟨_, rfl⟩

theorem answers_openedOn {path : String} {first second : Policy} (looks : first.LooksAt path)
    (alike : second.LooksAt path) (disk later : Disk) (events : List Logging.Event)
    (moments : List Moment) :
    answers { journal := Journal.openedOn first disk, disk := later, events } moments =
      answers { journal := Journal.openedOn second disk, disk := later, events } moments := by
  induction moments generalizing later with
  | nil => rfl
  | cons moment moments ih =>
      cases moment with
      | asked question =>
          rw [answers, answers, answer_openedOn looks alike, ih]
      | changed change => exact ih (change later)

/-- Looking at a log leaves its directory as others made it, and succeeds where there is a
directory. -/
theorem visit_of_check
    (valid : (configuration.inspectionSettings directory).check = .ok policy)
    (present : directory? policy.directory = some disk) (usable : disk.IsUsable)
    (moments : List Moment) (occasion : Occasion) :
    visit configuration directory directory? moments occasion =
      .ok
        { answers := answers
            { journal := Journal.openedOn policy disk
              disk
              events := openingEvents policy.directory disk } moments
          closing := .ok ()
          disk := moments.foldl Moment.pass disk } := by
  obtain ⟨answered, still⟩ := (looksAt_of_check valid).close_openedOn occasion disk
    (moments.foldl Moment.pass disk)
  rw [visit, openLog_of_check valid, present]
  simp only [Disk.list_of_isUsable usable]
  simp only [bind, Except.bind, pure, Except.pure, Opened.close, answered, still]

variable {place : Option String} {also : Policy}

/-- Two configurations that lead to the same directory are looked at alike. -/
theorem visit_eq_of_check
    (valid : (configuration.inspectionSettings directory).check = .ok policy)
    (alike : (other.inspectionSettings place).check = .ok also)
    (same : also.directory = policy.directory) (directory? : String → Option Disk)
    (moments : List Moment) (occasion : Occasion) :
    visit other place directory? moments occasion =
      visit configuration directory directory? moments occasion := by
  cases present : directory? policy.directory with
  | none =>
      rw [visit, visit, openLog_of_check valid, openLog_of_check alike, same, present]
  | some disk =>
      cases listed : disk.list with
      | error failure =>
          rw [visit, visit, openLog_of_check valid, openLog_of_check alike, same, present]
          simp only [listed]
      | ok names =>
          have usable := Disk.isUsable_of_list listed
          have looks := looksAt_of_check valid
          have others : also.LooksAt (configuration.inDirectory directory).settings.directory :=
            { looksAt_of_check alike with directory := same.trans looks.directory }
          rw [visit_of_check valid present usable,
            visit_of_check alike (same ▸ present) usable, same, answers_openedOn others looks]

theorem withLog_eq_of_check
    (valid : (configuration.inspectionSettings directory).check = .ok policy)
    (alike : (other.inspectionSettings place).check = .ok also)
    (same : also.directory = policy.directory) (directory? : String → Option Disk)
    (course : Course) (question : Question) :
    withLog directory? course other place (answer · question) =
      withLog directory? course configuration directory (answer · question) := by
  have looks := looksAt_of_check valid
  have others : also.LooksAt (configuration.inDirectory directory).settings.directory :=
    { looksAt_of_check alike with directory := same.trans looks.directory }
  rw [withLog, withLog, openLog_of_check valid, openLog_of_check alike, same]
  cases directory? policy.directory with
  | none => rfl
  | some disk =>
      cases listed : disk.list with
      | error failure => simp only [listed]
      | ok names =>
          simp only [listed, bind, Except.bind]
          rw [answer_openedOn others looks]
          split
          · rfl
          · rw [closeAfter, closeAfter, Opened.close, Opened.close,
              (others.close_openedOn _ _ _).1, (looks.close_openedOn _ _ _).1]

theorem perform_eq_of_check {invocation again : Invocation}
    (valid : (configuration.inspectionSettings invocation.directory).check = .ok policy)
    (alike : (other.inspectionSettings again.directory).check = .ok also)
    (same : also.directory = policy.directory) (command : again.command = invocation.command)
    (looking : invocation.command ≠ .check) (directory? : String → Option Disk) (course : Course) :
    perform directory? course other again = perform directory? course configuration invocation := by
  rw [perform, perform, command]
  cases asked : invocation.command with
  | check => exact absurd asked looking
  | segments => exact withLog_eq_of_check valid alike same directory? course .segments
  | search options =>
      exact withLog_eq_of_check valid alike same directory? course (.search course.clock options)

/-- A log that is looked at has an answer to everything that it is asked. -/
theorem answers_ok {path : String} (looks : policy.LooksAt path) (disk later : Disk)
    (events : List Logging.Event) (moments : List Moment) :
    ∃ printed : List Printed,
      answers { journal := Journal.openedOn policy disk, disk := later, events } moments =
        printed.map .ok := by
  induction moments generalizing later with
  | nil => exact ⟨[], rfl⟩
  | cons moment moments ih =>
      cases moment with
      | changed change => exact ih (change later)
      | asked question =>
          obtain ⟨others, further⟩ := ih later
          obtain ⟨printed, answered⟩ := answer_ok looks disk later events question
          refine ⟨printed :: others, ?_⟩
          rw [answers, answered, further, List.map_cons]

theorem foldl_pass_asked (questions : List Question) (disk : Disk) :
    (questions.map Moment.asked).foldl Moment.pass disk = disk := by
  induction questions with
  | nil => rfl
  | cons question questions ih => exact ih

/-- Looking at a log under a configuration and its checked settings neither changes the directory
nor depends on more than where it is. -/
structure LeavesNoMark (configuration : Configuration) (directory : Option String)
    (policy : Policy) : Prop where
  /-- Opening removes nothing, also where it fails, and begins no upkeep. -/
  opened : ∀ obstacles disk clock, (Session.openOn policy obstacles disk clock).2 = disk ∧
    ∀ session, (Session.openOn policy obstacles disk clock).1 = .ok session →
      session.upkeep = none
  /-- Everything is answered, closing does not fail, and the directory is left as it was. -/
  asked : ∀ directory? disk, directory? policy.directory = some disk → disk.IsUsable →
    ∀ (questions : List Question) occasion, ∃ printed : List Printed,
      visit configuration directory directory? (questions.map .asked) occasion =
        .ok { answers := printed.map .ok, closing := .ok (), disk }
  /-- What others change in the meantime is left as they made it. -/
  visited : ∀ directory? disk, directory? policy.directory = some disk → disk.IsUsable →
    ∀ moments occasion, ∃ printed : List Printed,
      visit configuration directory directory? moments occasion =
        .ok
          { answers := printed.map .ok
            closing := .ok ()
            disk := moments.foldl Moment.pass disk }
  /-- Another configuration that leads to the same directory gets the same answers. -/
  alike : ∀ other place also, (other.inspectionSettings place).check = .ok also →
    also.directory = policy.directory → ∀ directory? moments occasion,
      visit other place directory? moments occasion =
        visit configuration directory directory? moments occasion
  /-- The same holds of the program, except where it prints its configuration. -/
  performed : ∀ invocation : Invocation, invocation.directory = directory →
    invocation.command ≠ .check → ∀ (other : Configuration) (again : Invocation) also,
      again.command = invocation.command →
        (other.inspectionSettings again.directory).check = .ok also →
          also.directory = policy.directory → ∀ directory? course,
            perform directory? course other again =
              perform directory? course configuration invocation

/-- Whoever looks at a log leaves its directory alone, whatever is in there, and whatever the
configuration says of recording, files, memory, retention and hosts. The answers depend on nothing
but the directory, what is asked, and the clock. -/
theorem looking_leaves_no_mark
    (valid : (configuration.inspectionSettings directory).check = .ok policy) :
    LeavesNoMark configuration directory policy := by
  have looks := looksAt_of_check valid
  have visited : ∀ directory? disk, directory? policy.directory = some disk → disk.IsUsable →
      ∀ moments occasion, ∃ printed : List Printed,
        visit configuration directory directory? moments occasion =
          .ok
            { answers := printed.map .ok
              closing := .ok ()
              disk := moments.foldl Moment.pass disk } := by
    intro directory? disk present usable moments occasion
    obtain ⟨printed, answered⟩ := answers_ok looks disk disk
      (openingEvents policy.directory disk) moments
    exact ⟨printed, by rw [visit_of_check valid present usable, answered]⟩
  refine
    { opened := fun obstacles disk clock =>
        ⟨looks.disk_openOn obstacles disk, fun session opened => looks.upkeep_openOn opened⟩
      asked := fun directory? disk present usable questions occasion => ?_
      visited
      alike := fun other place also alike same => visit_eq_of_check valid alike same
      performed := ?_ }
  · have asked := visited directory? disk present usable (questions.map .asked) occasion
    rw [foldl_pass_asked] at asked
    exact asked
  · rintro invocation rfl looking other again also command alike same directory? course
    exact perform_eq_of_check valid alike same command looking directory? course

/-- A directory with a segment that ends in the middle of a record, and one that is a directory. -/
def brokenDisk : Disk :=
  { place := .folder
      [("querylog-00000001-20240102T030405Z.jsonl", .file 0 [0x7B]),
        ("querylog-00000002-20240102T030405Z.jsonl", .directory)]
    nextIdentity := 1 }

/-- A configuration under which recording would give up all segments but one. -/
def frugalConfiguration : Configuration :=
  { settings := { keptSegments := some 1, ignored := ["example.org"] } }

theorem looking_at_brokenDisk :
    ∃ printed : List Printed,
      visit frugalConfiguration (some "log") (fun _ => some brokenDisk)
        ([.segments, .search (fun _ => 0) {}].map .asked) { now := default } =
          .ok { answers := printed.map .ok, closing := .ok (), disk := brokenDisk } := by
  have valid : (frugalConfiguration.inspectionSettings (some "log")).check.isOk = true := by
    decide +kernel
  cases checked : (frugalConfiguration.inspectionSettings (some "log")).check with
  | error fault =>
      rw [checked] at valid
      contradiction
  | ok policy =>
      exact (looking_leaves_no_mark checked).asked _ brokenDisk rfl rfl _ _

end Inspection

end QueryJournal
