import QueryJournal.Proofs.Journal.Retention

namespace QueryJournal.Archive

open QueryJournal.Segment (Fits IsTidy found)
open QueryJournal.Storage

/-!
Sessions one after another, told with the segments that were closed or found since everything was
last cleared. A log that is open keeps the newest of them.
-/

variable {kept : Nat} {directory : String} {start disk : Disk} {history : List Segment}
  {occasion : Occasion} {archive : Archive} {journal : Journal} {policy : Policy}
  {obstacles : Obstacles} {deed : Deed}

/-!
### What is told
-/

/-- A history with what is found and was not known. -/
def extended (history found : List Segment) : List Segment :=
  history ++ found.filter (· ∉ history)

theorem extended_nil (found : List Segment) : extended [] found = found := by
  simp [extended]

/-- The history after a log was opened. One that does not record to files looks for no segment. -/
def historyOpened (policy : Policy) (disk : Disk) (history : List Segment) : List Segment :=
  if policy.fileEnabled then extended history (found policy.directory disk) else history

/-- The segment that a rotation closes, which is none if its flush fails. -/
def retiring (archive : Archive) (occasion : Occasion) : List Segment :=
  let flushed := archive.journal.serveFlush occasion true archive.disk
  match flushed.answer with
  | .ok _ => (ofOutcome flushed).current
  | .error _ => []

/-- The history after something was done with an open log. -/
def historyAfter (archive : Archive) (deed : Deed) (history : List Segment) : List Segment :=
  match deed.operation with
  | .rotate | .rotateBehind => history ++ archive.retiring deed.occasion
  | .clear => []
  | _ => history

/-- The history after an open log was closed. -/
def historyClosed (archive : Archive) (occasion : Occasion) (history : List Segment) :
    List Segment :=
  history ++ (ofOutcome
    ({ archive.journal with closed := true }.serveFlush occasion true archive.disk)).current

/-- How the removals of a deed with an open log end. -/
def removal (archive : Archive) (deed : Deed) : Except Failure Unit :=
  let { journal, disk } := archive
  match deed.operation with
  | .clear => (Journal.removeAll deed.occasion.obstacles disk journal.held).1
  | .rotate | .rotateBehind =>
    let flushed := journal.serveFlush deed.occasion true disk
    match flushed.answer with
    | .ok _ =>
      (Journal.removeAll deed.occasion.obstacles flushed.disk
        (flushed.journal.catalog.closeActive.2.prune journal.policy.keptSegments).1).1
    | .error _ => .ok ()
  | _ => .ok ()

/-- A log is opened on its directory to keep a number of segments, and its removals succeed. -/
structure Opening (kept : Nat) (directory : String) (policy : Policy) (obstacles : Obstacles)
    (disk : Disk) (archive : Archive) : Prop where
  placed : policy.directory = directory
  limit : policy.keptSegments = some kept
  opened : Journal.openOn policy obstacles disk = (.ok archive.journal, archive.disk)
  removed : policy.fileEnabled = true →
    (Journal.removeAll obstacles disk
      ((Journal.openedOn policy disk).catalog.prune policy.keptSegments).1).1 = .ok ()

/-- The next number and the time fit in a name. -/
structure Timely (archive : Archive) (occasion : Occasion) : Prop where
  year : 0 ≤ occasion.now.date.year ∧ occasion.now.date.year ≤ 9999
  number : archive.journal.catalog.nextNumber < Numeral.wordLimit - 1

theorem Timely.fits (timely : archive.Timely occasion) :
    Fits archive.journal.catalog.nextNumber occasion.now.truncated :=
  { word := Nat.lt_of_lt_of_le timely.number (Nat.sub_le _ _)
    whole := rfl
    year := timely.year }

/-- Sessions on one directory. In each of them a log is opened, used and closed. -/
inductive Chronicle (kept : Nat) (directory : String) (start : Disk) :
    List Segment → Archive → Prop where
  | first {policy : Policy} {obstacles : Obstacles} {archive : Archive}
      (opening : Opening kept directory policy obstacles start archive) :
      Chronicle kept directory start (historyOpened policy start []) archive
  | performed {history : List Segment} {archive : Archive} {deed : Deed}
      (earlier : Chronicle kept directory start history archive)
      (going : archive.journal.closed = false)
      (still : ∀ policy, deed.operation ≠ .reopen policy) (timely : archive.Timely deed.occasion)
      (removed : archive.removal deed = .ok ()) :
      Chronicle kept directory start (archive.historyAfter deed history) (archive.perform deed)
  | closed {history : List Segment} {archive : Archive} {occasion : Occasion}
      (earlier : Chronicle kept directory start history archive)
      (going : archive.journal.closed = false) (timely : archive.Timely occasion) :
      Chronicle kept directory start (archive.historyClosed occasion history)
        (ofOutcome (archive.journal.close occasion archive.disk))
  | reopened {history : List Segment} {archive next : Archive} {policy : Policy}
      {obstacles : Obstacles} (earlier : Chronicle kept directory start history archive)
      (closed : archive.journal.closed = true)
      (opening : Opening kept directory policy obstacles archive.disk next) :
      Chronicle kept directory start (historyOpened policy archive.disk history) next

theorem Chronicle.visited (chronicle : Chronicle kept directory start history archive) :
    Visited start archive := by
  induction chronicle with
  | first opening => exact ⟨_, _, _, _, opening.opened, .refl⟩
  | @performed _ _ deed _ going still _ _ ih =>
      obtain ⟨policy, obstacles, journal, disk, opened, later⟩ := ih
      refine ⟨policy, obstacles, journal, disk, opened, later.tail (.performed _ still ?_)⟩
      exact fun closed => absurd (going.symm.trans closed) Bool.false_ne_true
  | closed _ _ _ ih =>
      obtain ⟨policy, obstacles, journal, disk, opened, later⟩ := ih
      exact ⟨policy, obstacles, journal, disk, opened, later.tail (.closed _ _)⟩
  | reopened _ _ opening ih =>
      obtain ⟨policy, obstacles, journal, disk, opened, later⟩ := ih
      exact ⟨policy, obstacles, journal, disk, opened, later.tail (.opened opening.opened)⟩

/-!
### Sessions that record to files
-/

/-- What whoever opens the directory next makes of a history. -/
structure Settled (kept : Nat) (directory : String) (start : Disk) (history : List Segment)
    (disk : Disk) : Prop where
  later : start.nextIdentity ≤ disk.nextIdentity
  origins : ∀ name identity content, disk.find? name = some (.file identity content) →
    identity < disk.nextIdentity ∧ Origin start name identity content
  tidy : IsTidy disk
  single : disk.names.Nodup
  distinct : ((found directory disk).map Segment.number).Nodup
  retained : Retained kept (extended history (found directory disk)) (found directory disk)
  ascending : (extended history (found directory disk)).Pairwise
    fun older newer => older.number < newer.number

/-- Before the first session only what is found counts. -/
theorem Settled.first (tidy : IsTidy start) (single : start.names.Nodup)
    (numbered : start.Numbered) (distinct : ((found directory start).map Segment.number).Nodup) :
    Settled kept directory start [] start :=
  { later := Nat.le_refl _
    origins := origin_start numbered
    tidy
    single
    distinct
    retained := by
      rw [extended_nil]
      exact .all kept _
    ascending := by
      rw [extended_nil]
      exact Segment.pairwise_found distinct }

/-- Where everything was cleared only what is found counts. -/
theorem Settled.forget (settled : Settled kept directory start history disk) :
    Settled kept directory start [] disk :=
  { settled with
    retained := by
      rw [extended_nil]
      exact .all kept _
    ascending := by
      rw [extended_nil]
      exact Segment.pairwise_found settled.distinct }

/-- A log that is opened keeps the newest of what is known then. -/
theorem Settled.openOn (settled : Settled kept directory start history disk) (positive : 0 < kept)
    (opening : Opening kept directory policy obstacles disk archive)
    (files : policy.fileEnabled = true) :
    Tallied kept directory start (extended history (found directory disk)) archive ∧
      archive.journal.catalog.closed.length ≤ kept := by
  obtain ⟨later, origins, tidy, single, distinct, retained, ascending⟩ := settled
  obtain ⟨rfl, limit, opened, removed⟩ := opening
  obtain ⟨journal, after⟩ := archive
  obtain ⟨_, rfl, rfl⟩ := openOn_ok files opened
  have first : Tallied kept policy.directory start
      (extended history (found policy.directory disk))
      { journal := Journal.openedOn policy disk, disk } := by
    refine
      { consistent := ⟨.openedOn tidy distinct, .openedOn later origins⟩
        stocked := .openedOn tidy single
        limit
        listed := ?_
        retained := ?_
        ascending := ?_
        below := ?_ }
    · rw [Journal.held_openedOn, Segment.sorted_found distinct]
    · have closed : (Journal.openedOn policy disk).catalog.closed =
          found policy.directory disk := Segment.sorted_found distinct
      exact closed ▸ retained
    · exact (List.append_nil _).symm ▸ ascending
    · intro segment member
      have member : segment ∈ extended history (found policy.directory disk) := by
        simpa [current, Journal.openedOn, Catalog.ofExisting] using member
      have below : ∀ known ∈ found policy.directory disk,
          known.number < (Journal.openedOn policy disk).catalog.nextNumber :=
        fun known there => Journal.number_lt_nextNumber (Journal.mem_held_openedOn.mpr there)
      obtain ⟨older, whole⟩ := retained.newest
      rw [← whole] at member ascending
      rcases List.mem_append.mp member with old | there
      · -- What is not found any more is older than what is, of which there is some.
        have enough := retained.enough
        rw [← whole, List.length_append] at enough
        have pos := List.length_pos_of_mem old
        obtain ⟨known, there⟩ := List.exists_mem_of_length_pos
          (show 0 < (found policy.directory disk).length by omega)
        exact Nat.lt_trans ((List.pairwise_append.mp ascending).2.2 segment old known there)
          (below known there)
      · exact below segment there
  exact first.prune rfl (removed files)

/-- A log without an active segment leaves a directory behind that tells the same history. -/
theorem Tallied.settled (tallied : Tallied kept directory start history archive)
    (none : archive.current = []) : Settled kept directory start history archive.disk := by
  obtain ⟨⟨ordered, coherent⟩, stocked, _, listed, retained, ascending, _⟩ := tallied
  rw [none, List.append_nil] at ascending
  rw [archive.held_eq, none, List.append_nil] at listed
  have known : extended history (found directory archive.disk) = history := by
    have nothing : (found directory archive.disk).filter (· ∉ history) = [] := by
      rw [listed, List.filter_eq_nil_iff]
      simpa using fun segment member => retained.newest.subset member
    rw [extended, nothing, List.append_nil]
  exact
    { later := coherent.later
      origins := coherent.files
      tidy := stocked.tidy
      single := stocked.single
      distinct := ordered.distinct
      retained := by
        rw [known, listed]
        exact retained
      ascending := by
        rw [known]
        exact ascending }

theorem serveFlush_filed (files : journal.policy.fileEnabled = true) (occasion : Occasion)
    (force : Bool) (disk : Disk) :
    journal.serveFlush occasion force disk = journal.flushBuffer occasion force disk := by
  rw [Journal.serveFlush, if_pos files]

theorem Tallied.serveRotation
    (tallied : Tallied kept directory start history { journal, disk })
    (files : journal.policy.fileEnabled = true) (few : journal.catalog.closed.length ≤ kept)
    (fits : Fits journal.catalog.nextNumber occasion.now.truncated)
    (removed : removal { journal, disk } { occasion, operation := .rotate } = .ok ()) :
    Tallied kept directory start (history ++ retiring { journal, disk } occasion)
        (ofOutcome (journal.serveRotation occasion disk)) ∧
      (journal.serveRotation occasion disk).journal.catalog.closed.length ≤ kept := by
  have flushed := tallied.serveFlush occasion fits true
  have same := (enlists_serveFlush tallied.consistent.coherent.inactive occasion true disk).closed
  have still : (journal.serveFlush occasion true disk).journal.catalog.closed.length ≤ kept :=
    same ▸ few
  rw [Journal.serveRotation, if_pos files, ← serveFlush_filed files]
  cases answer : (journal.serveFlush occasion true disk).answer with
  | error failure =>
      simp only [retiring, answer, List.append_nil]
      exact ⟨flushed, still⟩
  | ok count =>
      simp only [removal, answer] at removed
      simp only [retiring, answer]
      cases opened : (journal.serveFlush occasion true disk).journal.writer with
      | none =>
          have none : current (ofOutcome (journal.serveFlush occasion true disk)) = [] := by
            rw [current, flushed.consistent.coherent.inactive opened]
            rfl
          rw [none, List.append_nil]
          exact ⟨flushed, still⟩
      | some writer =>
          rw [← (sameSettings_serveFlush occasion true journal disk).1] at removed ⊢
          exact flushed.release.prune rfl removed

theorem Tallied.perform (tallied : Tallied kept directory start history archive)
    (going : archive.journal.closed = false) (files : archive.journal.policy.fileEnabled = true)
    (few : archive.journal.catalog.closed.length ≤ kept)
    (still : ∀ policy, deed.operation ≠ .reopen policy) (timely : archive.Timely deed.occasion)
    (removed : archive.removal deed = .ok ()) :
    Tallied kept directory start (archive.historyAfter deed history) (archive.perform deed) ∧
      (archive.perform deed).journal.catalog.closed.length ≤ kept := by
  obtain ⟨journal, disk⟩ := archive
  obtain ⟨occasion, operation⟩ := deed
  change journal.closed = false at going
  have flushed : ∀ force, Tallied kept directory start history
      (ofOutcome (journal.serveFlush occasion force disk)) ∧
        (journal.serveFlush occasion force disk).journal.catalog.closed.length ≤ kept := by
    intro force
    have same :=
      (enlists_serveFlush tallied.consistent.coherent.inactive occasion force disk).closed
    exact ⟨tallied.serveFlush occasion timely.fits force, same ▸ few⟩
  cases operation with
  | add exchange =>
      have same : (journal.add occasion.now exchange).2.catalog = journal.catalog := by
        rw [Journal.add]
        split
        · rfl
        · split <;> rfl
      refine ⟨tallied.enlist (moves_add occasion exchange journal disk)
        (sameSettings_add occasion exchange journal).1 ?_ timely.fits, same ▸ few⟩
      exact (Enlists.refl { journal, disk }).congr rfl rfl rfl same rfl
  | flush force =>
      simp only [Archive.perform, Journal.flush, whileOpen_going going]
      exact flushed force
  | rotate =>
      simp only [Archive.perform, Journal.rotate, whileOpen_going going]
      exact tallied.serveRotation files few timely.fits removed
  | clear =>
      refine ⟨tallied.clear going occasion removed, ?_⟩
      simp only [Archive.perform, Journal.clear, whileOpen_going going]
      exact Nat.zero_le _
  | flushBehind => exact flushed false
  | rotateBehind => exact tallied.serveRotation files few timely.fits removed
  | reopen policy => exact absurd rfl (still policy)

theorem Tallied.close (tallied : Tallied kept directory start history archive)
    (going : archive.journal.closed = false) (timely : archive.Timely occasion) :
    Settled kept directory start (archive.historyClosed occasion history)
      (archive.journal.close occasion archive.disk).disk := by
  obtain ⟨journal, disk⟩ := archive
  change journal.closed = false at going
  have closing : Move occasion { journal, disk }
      { journal := { journal with closed := true }, disk } := .remember rfl rfl rfl
  have closed := tallied.enlist (.single closing) rfl
    ((Enlists.refl { journal, disk }).congr rfl rfl rfl rfl rfl) timely.fits
  have released := (closed.serveFlush occasion timely.fits true).release
  rw [Journal.close, if_neg (ne_true_of_eq_false going)]
  exact released.settled (current_release _ _)

/-!
### Sessions that do not record to files
-/

/-- A log that does not record to files lists no segment. -/
structure Unfiled (archive : Archive) : Prop where
  unfiled : archive.journal.policy.fileEnabled = false
  held : archive.journal.held = []

theorem Unfiled.current (unfiled : Unfiled archive) : archive.current = [] :=
  (List.append_eq_nil_iff.mp unfiled.held).2

theorem serveFlush_unfiled (journal : Journal) (unfiled : journal.policy.fileEnabled = false)
    (occasion : Occasion) (force : Bool) (disk : Disk) :
    journal.serveFlush occasion force disk = { answer := .ok 0, journal, disk } := by
  rw [Journal.serveFlush, if_neg (ne_true_of_eq_false unfiled)]

theorem serveRotation_unfiled (unfiled : journal.policy.fileEnabled = false) (occasion : Occasion)
    (disk : Disk) : journal.serveRotation occasion disk = { answer := .ok (), journal, disk } := by
  rw [Journal.serveRotation, if_neg (ne_true_of_eq_false unfiled)]

theorem ofOutcome_whileOpen {α : Type} {operation : Outcome α}
    (same : ofOutcome operation = { journal, disk }) :
    ofOutcome (journal.whileOpen disk operation) = { journal, disk } := by
  rw [Journal.whileOpen]
  split
  · rfl
  · exact same

theorem Unfiled.perform (unfiled : Unfiled archive)
    (still : ∀ policy, deed.operation ≠ .reopen policy) :
    Unfiled (archive.perform deed) ∧ (archive.perform deed).disk = archive.disk := by
  obtain ⟨journal, disk⟩ := archive
  obtain ⟨occasion, operation⟩ := deed
  obtain ⟨off, held⟩ := id unfiled
  have flushed : ∀ force, ofOutcome (journal.serveFlush occasion force disk) =
      { journal, disk } := fun force => by rw [serveFlush_unfiled journal off]; rfl
  have rotated : ofOutcome (journal.serveRotation occasion disk) = { journal, disk } := by
    rw [serveRotation_unfiled off]
    rfl
  have same : Unfiled { journal, disk } ∧ disk = disk := ⟨unfiled, rfl⟩
  cases operation with
  | add exchange =>
      refine ⟨⟨?_, ?_⟩, rfl⟩ <;> simp only [Archive.perform, Journal.add] <;> split
      · exact off
      · split <;> exact off
      · exact held
      · split <;> exact held
  | flush force =>
      rw [Archive.perform, Journal.flush, ofOutcome_whileOpen (flushed force)]
      exact same
  | rotate =>
      rw [Archive.perform, Journal.rotate, ofOutcome_whileOpen rotated]
      exact same
  | clear =>
      change journal.catalog.takeAll.1 = [] at held
      simp only [Archive.perform, Journal.clear, Journal.whileOpen]
      split
      · exact same
      · rw [held]
        exact ⟨⟨off, rfl⟩, rfl⟩
  | flushBehind =>
      rw [Archive.perform, flushed false]
      exact same
  | rotateBehind =>
      rw [Archive.perform, rotated]
      exact same
  | reopen policy => exact absurd rfl (still policy)

theorem Unfiled.close (unfiled : Unfiled archive) (occasion : Occasion) :
    Unfiled (ofOutcome (archive.journal.close occasion archive.disk)) ∧
      (archive.journal.close occasion archive.disk).disk = archive.disk := by
  obtain ⟨journal, disk⟩ := archive
  obtain ⟨off, held⟩ := id unfiled
  rw [Journal.close]
  split
  · exact ⟨unfiled, rfl⟩
  · rw [serveFlush_unfiled { journal with closed := true } off]
    exact ⟨⟨off, (Catalog.takeAll_closeActive _).trans held⟩, rfl⟩

/-- The history of a log that does not record to files stays, or ends with a clear. -/
theorem Unfiled.historyAfter (unfiled : Unfiled archive) (deed : Deed) (history : List Segment) :
    archive.historyAfter deed history = history ∨ archive.historyAfter deed history = [] := by
  have none : ∀ occasion, archive.retiring occasion = [] := by
    intro occasion
    simp only [retiring, serveFlush_unfiled archive.journal unfiled.unfiled]
    exact unfiled.current
  obtain ⟨occasion, operation⟩ := deed
  cases operation with
  | rotate | rotateBehind =>
      refine .inl ?_
      simp only [Archive.historyAfter, none, List.append_nil]
  | clear => exact .inr rfl
  | add | flush | flushBehind | reopen => exact .inl rfl

theorem Unfiled.historyClosed (unfiled : Unfiled archive) (occasion : Occasion)
    (history : List Segment) : archive.historyClosed occasion history = history := by
  have flushed := serveFlush_unfiled { archive.journal with closed := true } unfiled.unfiled
    occasion true archive.disk
  rw [Archive.historyClosed, flushed]
  have none := unfiled.current
  rw [Archive.current] at none ⊢
  exact none ▸ List.append_nil history

/-!
### Every session
-/

/-- What holds of a log and its history, whether it is open and whether it records to files. -/
structure Standing (kept : Nat) (directory : String) (start : Disk) (history : List Segment)
    (archive : Archive) : Prop where
  filed : archive.journal.closed = false → archive.journal.policy.fileEnabled = true →
    Tallied kept directory start history archive ∧
      archive.journal.catalog.closed.length ≤ kept
  unfiled : archive.journal.policy.fileEnabled = false → Unfiled archive
  settled : archive.journal.closed = true ∨ archive.journal.policy.fileEnabled = false →
    Settled kept directory start history archive.disk

theorem Settled.opened (settled : Settled kept directory start history disk) (positive : 0 < kept)
    (opening : Opening kept directory policy obstacles disk archive) :
    Standing kept directory start (historyOpened policy disk history) archive := by
  cases files : policy.fileEnabled with
  | true =>
      have tallied := settled.openOn positive opening files
      rw [historyOpened, if_pos files, opening.placed]
      obtain ⟨_, known, _⟩ := openOn_ok files opening.opened
      have filed : archive.journal.policy.fileEnabled = true := by
        rw [known]
        exact files
      have going : archive.journal.closed = false := by
        rw [known]
        rfl
      exact
        { filed := fun _ _ => tallied
          unfiled := fun off => absurd (off.symm.trans filed) Bool.false_ne_true
          settled := fun idle => by simp [filed, going] at idle }
  | false =>
      obtain ⟨same, known, held, _⟩ := openOn_unfiled files opening.opened
      have off : archive.journal.policy.fileEnabled = false := by rw [known, files]
      rw [historyOpened, if_neg (ne_true_of_eq_false files)]
      exact
        { filed := fun _ on => absurd (off.symm.trans on) Bool.false_ne_true
          unfiled := fun _ => ⟨off, held⟩
          settled := fun _ => same.symm ▸ settled }

theorem Standing.perform (standing : Standing kept directory start history archive)
    (going : archive.journal.closed = false)
    (still : ∀ policy, deed.operation ≠ .reopen policy) (timely : archive.Timely deed.occasion)
    (removed : archive.removal deed = .ok ()) :
    Standing kept directory start (archive.historyAfter deed history) (archive.perform deed) := by
  have same := sameSettings_perform archive still
  obtain ⟨filed, unfiled, settled⟩ := standing
  cases files : archive.journal.policy.fileEnabled with
  | true =>
      obtain ⟨tallied, few⟩ := filed going files
      refine
        { filed := fun _ _ => tallied.perform going files few still timely removed
          unfiled := fun off => ?_
          settled := fun idle => ?_ }
      · rw [same.1, files] at off
        contradiction
      · rw [same.1, same.2, files, going] at idle
        simp at idle
  | false =>
      obtain ⟨kept, disk⟩ := (unfiled files).perform still
      refine
        { filed := fun _ on => absurd (kept.unfiled.symm.trans on) Bool.false_ne_true
          unfiled := fun _ => kept
          settled := fun _ => ?_ }
      rw [disk]
      rcases (unfiled files).historyAfter deed history with same | none
      · exact same.symm ▸ settled (.inr files)
      · exact none.symm ▸ (settled (.inr files)).forget

theorem Standing.close (standing : Standing kept directory start history archive)
    (going : archive.journal.closed = false) (timely : archive.Timely occasion) :
    Standing kept directory start (archive.historyClosed occasion history)
      (ofOutcome (archive.journal.close occasion archive.disk)) := by
  have policy := (close_released occasion archive.journal archive.disk going).1
  have closed : (archive.journal.close occasion archive.disk).journal.closed = true := by
    rw [Journal.close, if_neg (ne_true_of_eq_false going)]
    exact (sameSettings_serveFlush occasion true { archive.journal with closed := true } _).2
  obtain ⟨filed, unfiled, settled⟩ := standing
  refine
    { filed := fun still => absurd (still.symm.trans closed) Bool.false_ne_true
      unfiled := fun off => ((unfiled (policy ▸ off)).close occasion).1
      settled := fun _ => ?_ }
  cases files : archive.journal.policy.fileEnabled with
  | true => exact (filed going files).1.close going timely
  | false =>
      rw [(unfiled files).historyClosed occasion history]
      change Settled kept directory start history
        (archive.journal.close occasion archive.disk).disk
      rw [((unfiled files).close occasion).2]
      exact settled (.inr files)

theorem Chronicle.standing (chronicle : Chronicle kept directory start history archive)
    (positive : 0 < kept) (settled : Settled kept directory start [] start) :
    Standing kept directory start history archive := by
  induction chronicle with
  | first opening => exact settled.opened positive opening
  | performed _ going still timely removed ih => exact ih.perform going still timely removed
  | closed _ going timely ih => exact ih.close going timely
  | reopened _ closed opening ih => exact (ih.settled (.inl closed)).opened positive opening

end QueryJournal.Archive
