import Mathlib
import QueryJournal.Proofs.Host.Normal
import QueryJournal.Record.Recording
import QueryJournal.Search.Criterion

namespace QueryJournal

open QueryJournal.Search (Criterion)
open QueryJournal.Time (Instant)

/-!
The host of an entry. It tells the name that was asked for up to the case of letters, whatever bytes
the labels hold, so a strict term that is the host of a record finds no record of another name by
its host.
-/

namespace Exchange

variable {masks masksOther : Bool} {time timeOther : Instant} {exchange other : Exchange}
  {entry entryOther : Entry}

/-- An exchange that can be recorded is recorded with what was asked for. -/
theorem question_of_record (recorded : exchange.record masks time = .ok entry) :
    entry.host = recordedHost exchange.question.name ∧
      entry.queryType = Dns.typeName exchange.question.type := by
  rw [record] at recorded
  cases answer : packed exchange.answer with
  | error fault =>
      rw [answer] at recorded
      cases recorded
  | ok bytes =>
      cases received : packed exchange.receivedAnswer with
      | error fault =>
          rw [answer, received] at recorded
          cases recorded
      | ok others =>
          rw [answer, received] at recorded
          cases recorded
          exact ⟨rfl, rfl⟩

theorem host_of_record (recorded : exchange.record masks time = .ok entry) :
    entry.host = recordedHost exchange.question.name :=
  (question_of_record recorded).1

theorem recordedHost_inj (left right : Dns.Name) :
    recordedHost left = recordedHost right ↔ left.SameIgnoringCase right := by
  rw [recordedHost, recordedHost, String.ofList_inj, Host.normal_text_inj]

theorem fold_recordedHost (name : Dns.Name) :
    Text.fold (recordedHost name).toList = (recordedHost name).toList := by
  rw [recordedHost, String.toList_ofList, Host.fold_normal]

/-- Two exchanges are recorded under one host exactly if the names that were asked for have the same
labels up to the case of letters. A strict term that is the host of a record finds the records of
the same name, and of another name only those which have it as the text of their client address. -/
theorem recorded_host_identifies_name (recorded : exchange.record masks time = .ok entry)
    (recordedOther : other.record masksOther timeOther = .ok entryOther) :
    (entry.host = entryOther.host ↔
      exchange.question.name.SameIgnoringCase other.question.name) ∧
    ((Criterion.term entry.host true).admits entryOther = true ↔
      exchange.question.name.SameIgnoringCase other.question.name ∨
        Text.eqIgnoringCase entryOther.client.chars entry.host.toList = true) := by
  have host := host_of_record recorded
  have hostOther := host_of_record recordedOther
  have same : Text.eqIgnoringCase entryOther.host.toList entry.host.toList = true ↔
      exchange.question.name.SameIgnoringCase other.question.name := by
    rw [Text.eqIgnoringCase, beq_iff_eq, host, hostOther, fold_recordedHost, fold_recordedHost,
      String.toList_inj, eq_comm, recordedHost_inj]
  refine ⟨by rw [host, hostOther, recordedHost_inj], ?_⟩
  rw [← same]
  simp [Criterion.admits, Search.searchedTexts]

/-- A question for a name of one label. -/
def asking (label : Utf8.Bytes) (isLabel : Dns.IsLabel label) : Exchange where
  question :=
    { name :=
        { labels := [label]
          isLabel := by simpa using isLabel
          length_le := by
            have short := isLabel.2
            simp only [Dns.wireLength, List.foldr_cons, List.foldr_nil]
            omega } }
  client := default

/-- Names of one label each: one that ends with a point, the same in capitals, and one that ends
with a backslash. -/
theorem recorded_host_identifies_name_pointed :
    ∃ pointed loud slashed,
      (asking [0x61, 0x2E] (by decide)).record false default = .ok pointed ∧
      (asking [0x41, 0x2E] (by decide)).record false default = .ok loud ∧
      (asking [0x61, 0x5C] (by decide)).record false default = .ok slashed ∧
      pointed.host = loud.host ∧ pointed.host ≠ slashed.host ∧
      (Criterion.term pointed.host true).admits loud = true ∧
      (Criterion.term pointed.host true).admits slashed = false := by
  obtain ⟨pointed, recorded⟩ : ∃ entry,
      (asking [0x61, 0x2E] (by decide)).record false default = .ok entry := ⟨_, rfl⟩
  obtain ⟨loud, recordedLoud⟩ : ∃ entry,
      (asking [0x41, 0x2E] (by decide)).record false default = .ok entry := ⟨_, rfl⟩
  obtain ⟨slashed, recordedSlashed⟩ : ∃ entry,
      (asking [0x61, 0x5C] (by decide)).record false default = .ok entry := ⟨_, rfl⟩
  obtain ⟨host, found⟩ := recorded_host_identifies_name recorded recordedLoud
  obtain ⟨hostSlashed, foundSlashed⟩ := recorded_host_identifies_name recorded recordedSlashed
  refine ⟨pointed, loud, slashed, recorded, recordedLoud, recordedSlashed, host.mpr (by decide),
    mt hostSlashed.mp (by decide), found.mpr (.inl (by decide)), ?_⟩
  refine Bool.eq_false_iff.mpr (mt foundSlashed.mp ?_)
  cases recorded
  cases recordedSlashed
  decide +kernel

end Exchange

end QueryJournal
