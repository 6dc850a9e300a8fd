import Mathlib.Data.List.Induction
import QueryJournal.Proofs.Segment.Writer

namespace QueryJournal

open QueryJournal.Storage
open QueryJournal.Utf8 (Bytes)

/-!
A segment that batch after batch is appended to, each of which may fail anywhere. The writer knows
one length; the file has a size and a position at which the next byte is written. The three stay
the same, so that a batch lands whole or leaves no trace.
-/

/-- A file that somebody has open: its content, and the position at which the next byte lands. -/
structure Storage.OpenFile where
  content : Bytes := []
  position : Nat := 0
  deriving DecidableEq

/-- How an append goes: all of it lands, or it fails after a number of its bytes, perhaps all of
them, have reached the file. -/
inductive Course where
  | lands
  | fails (reached : Nat)
  deriving DecidableEq

namespace Storage.OpenFile

def write (file : OpenFile) (bytes : Bytes) : OpenFile :=
  { content := Disk.overwritten file.position bytes file.content
    position := file.position + bytes.length }

/-- Cuts a file, which leaves the position where it is. -/
def cut (file : OpenFile) (length : Nat) : OpenFile :=
  { file with content := Disk.resized length file.content }

def rewind (file : OpenFile) (position : Nat) : OpenFile :=
  { file with position }

/-- The calls that an append comes down to where so many bytes count. -/
def append (file : OpenFile) (counted : Nat) (batch : Bytes) : Course → OpenFile
  | .lands => file.write batch
  | .fails reached => ((file.write (batch.take reached)).cut counted).rewind counted

/-- A file of which every byte counts, open at its end. -/
def whole (content : Bytes) : OpenFile :=
  { content, position := content.length }

theorem append_lands (content batch : Bytes) :
    (whole content).append content.length batch .lands = whole (content ++ batch) := by
  have written := Disk.overwritten_append content batch []
  rw [List.append_nil, List.drop_nil, List.append_nil] at written
  simp only [append, write, whole, written, List.length_append]

theorem append_fails (content batch : Bytes) (reached : Nat) :
    (whole content).append content.length batch (.fails reached) = whole content := by
  have written := Disk.overwritten_append content (batch.take reached) []
  rw [List.append_nil, List.drop_nil, List.append_nil] at written
  simp only [append, write, cut, rewind, whole, written, Disk.resized_append]

end Storage.OpenFile

namespace SegmentWriter

variable {obstacles : Obstacles} {disk after : Disk} {writer : SegmentWriter} {name : String}
  {content batch : Bytes}

def course (obstacles : Obstacles) (writer : SegmentWriter) (batch : Bytes) : Course :=
  if writer.succeeds obstacles batch then .lands else .fails (writer.reach obstacles batch)

/-- Every course that an append can take is one that it does take, whatever the writer and the
batch. -/
theorem course_surjective (writer : SegmentWriter) (batch : Bytes) {reached : Nat}
    (inside : reached ≤ batch.length) :
    (∃ obstacles, writer.course obstacles batch = .lands) ∧
      ∃ obstacles, writer.course obstacles batch = .fails reached := by
  constructor
  · exact ⟨.none, by simp [course, succeeds, reach, Obstacles.none]⟩
  · refine ⟨{ growthLimit := some (writer.length + reached), refusesFlush := true }, ?_⟩
    simp [course, succeeds, reach, inside]

/-- What an append does to the file of the writer is what its calls do to it. -/
theorem find?_append (obstacles : Obstacles) (batch : Bytes)
    (found : disk.find? name = some (.file writer.identity content))
    (length : writer.length = content.length) :
    (writer.append obstacles disk batch).2.2.find? name =
      some (.file writer.identity
        ((OpenFile.whole content).append writer.length batch
          (writer.course obstacles batch)).content) := by
  have counts : writer.Counts disk name := by
    intro other placed
    cases found.symm.trans placed
    exact length.symm
  rw [SegmentWriter.append, course]
  cases whole : writer.succeeds obstacles batch with
  | true =>
      simp only [↓reduceIte, length, OpenFile.append_lands]
      rw [counts.find?_whole whole, found, Option.map_some, Node.modified, if_pos rfl]
      rfl
  | false =>
      simp only [Bool.false_eq_true, ↓reduceIte, length, OpenFile.append_fails]
      rw [counts.find?_rollBack, found]
      rfl

structure Attempt where
  obstacles : Obstacles := .none
  batch : Bytes

/-- A writer at work: its directory, its file as the calls left it, and its answers. -/
structure Work where
  writer : SegmentWriter
  disk : Disk
  file : OpenFile := {}
  answers : List (Except Failure Nat) := []

namespace Work

def attempt (work : Work) (attempt : Attempt) : Work :=
  let (answer, writer, disk) := work.writer.append attempt.obstacles work.disk attempt.batch
  let course := work.writer.course attempt.obstacles attempt.batch
  { writer
    disk
    file := work.file.append work.writer.length attempt.batch course
    answers := work.answers ++ [answer] }

def attemptAll (work : Work) (attempts : List Attempt) : Work :=
  attempts.foldl attempt work

end Work

/-- The batches that were answered with a length, one behind the other. -/
def landed (attempts : List Attempt) (answers : List (Except Failure Nat)) : Bytes :=
  ((attempts.zip answers).filter fun call => call.2.isOk).flatMap fun call => call.1.batch

theorem landed_concat {attempts : List Attempt} {answers : List (Except Failure Nat)}
    (same : answers.length = attempts.length) (attempt : Attempt) (answer : Except Failure Nat) :
    landed (attempts ++ [attempt]) (answers ++ [answer]) =
      landed attempts answers ++ if answer.isOk then attempt.batch else [] := by
  rw [landed, List.zip_append same.symm, List.filter_append, List.flatMap_append, landed]
  cases answer <;> simp [Except.isOk, Except.toBool]

/-- What holds of a writer after some attempts to append: its file holds the batches that landed
and nothing else, all of it counts, and the next byte lands behind it. -/
structure Whole (name : String) (attempts : List Attempt) (work : Work) : Prop where
  answered : work.answers.length = attempts.length
  content : work.disk.find? name =
    some (.file work.writer.identity (landed attempts work.answers))
  length : work.writer.length = (landed attempts work.answers).length
  position : work.file = .whole (landed attempts work.answers)
  told : ∀ length, work.answers.getLast? = some (.ok length) → length = work.writer.length

theorem Whole.attempt {attempts : List Attempt} {work : Work} (whole : Whole name attempts work)
    (attempt : Attempt) : Whole name (attempts ++ [attempt]) (work.attempt attempt) := by
  obtain ⟨answered, content, length, position, _⟩ := whole
  have grown := find?_append attempt.obstacles attempt.batch content length
  cases lands : work.writer.succeeds attempt.obstacles attempt.batch with
  | true =>
      have course : work.writer.course attempt.obstacles attempt.batch = .lands := by
        simp [SegmentWriter.course, lands]
      have all := landed_concat answered attempt
        (.ok (work.writer.length + attempt.batch.length))
      simp only [Except.isOk, Except.toBool, ↓reduceIte] at all
      rw [course, length, OpenFile.append_lands] at grown
      simp only [Work.attempt, SegmentWriter.append, lands, ↓reduceIte, course] at grown ⊢
      exact
        { answered := by simp [answered]
          content := by rw [all]; exact grown
          length := by rw [all, List.length_append, length]
          position := by rw [all, position, length, OpenFile.append_lands]
          told := by simp }
  | false =>
      have course : work.writer.course attempt.obstacles attempt.batch =
          .fails (work.writer.reach attempt.obstacles attempt.batch) := by
        simp [SegmentWriter.course, lands]
      have none := landed_concat answered attempt (.error (.system "cannot write file"))
      simp only [Except.isOk, Except.toBool, Bool.false_eq_true, ↓reduceIte,
        List.append_nil] at none
      rw [course, length, OpenFile.append_fails] at grown
      simp only [Work.attempt, SegmentWriter.append, lands, Bool.false_eq_true, ↓reduceIte,
        course] at grown ⊢
      exact
        { answered := by simp [answered]
          content := by rw [none]; exact grown
          length := by rw [none, length]
          position := by rw [none, position, length, OpenFile.append_fails]
          told := by simp }

theorem whole_attemptAll {start : Work} (fresh : Whole name [] start) (attempts : List Attempt) :
    Whole name attempts (start.attemptAll attempts) := by
  induction attempts using List.reverseRecOn with
  | nil => exact fresh
  | append_singleton attempts attempt ih =>
      rw [Work.attemptAll, List.foldl_append]
      exact ih.attempt attempt

theorem whole_create {segment : Segment} {syncs : Bool}
    (made : create obstacles disk segment syncs = (.ok writer, after)) :
    Whole segment.name [] { writer, disk := after } := by
  obtain ⟨known, -, -, found, -⟩ := create_ok made
  rw [known]
  exact
    { answered := rfl
      content := found
      length := rfl
      position := rfl
      told := by simp }

theorem create_of_content? (obstacles : Obstacles) {segment : Segment} (syncs : Bool)
    (taken : disk.content? segment.name = some content) :
    ∃ failure, (create obstacles disk segment syncs).1 = .error failure ∧
      (create obstacles disk segment syncs).2.content? segment.name = some content := by
  cases made : create obstacles disk segment syncs with
  | mk answer after =>
      cases answer with
      | ok writer =>
          obtain ⟨-, -, free, -⟩ := create_ok made
          simp [Disk.content?, free] at taken
      | error failure =>
          have same := (create_error made).2 segment.name
          exact ⟨failure, rfl, by rw [Disk.content?, same]; exact taken⟩

/-- A segment that was made holds, after every append, the batches that were answered with a length
and nothing else, whatever failed at whichever byte. The writer counts all of it, answers with that
length and writes on behind it. Over a file that is there no segment is made. -/
theorem batches_land_whole (obstacles : Obstacles) (disk : Disk) (segment : Segment)
    (syncs : Bool) :
    (∀ writer after, create obstacles disk segment syncs = (.ok writer, after) →
      ∀ attempts, Whole segment.name attempts
        (({ writer, disk := after } : Work).attemptAll attempts)) ∧
    ∀ content, disk.content? segment.name = some content →
      ∃ failure, (create obstacles disk segment syncs).1 = .error failure ∧
        (create obstacles disk segment syncs).2.content? segment.name = some content :=
  ⟨fun _ _ made attempts => whole_attemptAll (whole_create made) attempts,
    fun _ taken => create_of_content? obstacles syncs taken⟩

/-- Four batches, of which the second fails after one byte and the third after its last one. -/
def attemptsWithFailures : List Attempt :=
  [{ batch := Utf8.ofString "one\n" },
    { obstacles := { growthLimit := some 5 }, batch := Utf8.ofString "two\n" },
    { obstacles := { refusesSync := true }, batch := Utf8.ofString "three\n" },
    { batch := Utf8.ofString "four\n" }]

theorem batches_land_whole_between_failures :
    ∃ work, Whole "segment" attemptsWithFailures work ∧
      work.disk.content? "segment" = some (Utf8.ofString "one\nfour\n") ∧
        work.answers.getLast? = some (.ok 9) ∧
          ∃ failure,
            (create .none work.disk ⟨1, .epoch, "log/segment"⟩ true).1 = .error failure := by
  let segment : Segment := ⟨1, .epoch, "log/segment"⟩
  have named : segment.name = "segment" := by decide +kernel
  obtain ⟨whole, -⟩ := batches_land_whole .none {} segment true
  let start : Work :=
    { writer := { segment, identity := 0, length := 0, syncs := true }
      disk := { place := .folder [("segment", .file 0 [])], nextIdentity := 1 } }
  have made : create .none {} segment true = (.ok start.writer, start.disk) := by decide +kernel
  have held : (start.attemptAll attemptsWithFailures).disk.content? "segment" =
      some (Utf8.ofString "one\nfour\n") := by
    decide +kernel
  have told : (start.attemptAll attemptsWithFailures).answers.getLast? = some (.ok 9) := by
    decide +kernel
  obtain ⟨-, refused⟩ :=
    batches_land_whole .none (start.attemptAll attemptsWithFailures).disk segment true
  rw [named] at whole refused
  obtain ⟨failure, failed, -⟩ := refused _ held
  exact ⟨_, whole _ _ made attemptsWithFailures, held, told, failure, failed⟩

end SegmentWriter

end QueryJournal
