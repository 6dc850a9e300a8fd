import QueryJournal.Proofs.Json.Printer
import QueryJournal.Proofs.Json.Reader
import QueryJournal.Proofs.Record.Entry
import QueryJournal.Record.Line

namespace QueryJournal

open QueryJournal.Document
open QueryJournal.Json (Plain plainItems_iff plainMembers_iff)
open QueryJournal.Utf8 (Bytes)

/-!
Lines of entries. A line is read back whatever line end it has, and lines that were written one
after another are found again at their newlines.
-/

/-- Items that are written one after another with a mark behind each are split at the marks. -/
theorem splitOn_flatMap_concat {α β : Type} [BEq β] [LawfulBEq β] {write : α → List β} {mark : β}
    {items : List α} (clear : ∀ item ∈ items, mark ∉ write item) :
    (items.flatMap fun item => write item ++ [mark]).splitOn mark = items.map write ++ [[]] := by
  induction items with
  | nil => rfl
  | cons item items ih =>
      rw [List.flatMap_cons, List.append_assoc, List.singleton_append,
        List.splitOn_append_cons_self_of_not_mem (clear item List.mem_cons_self),
        ih fun other member => clear other (List.mem_cons_of_mem _ member), List.map_cons,
        List.cons_append]

theorem FilterRule.plain_toValue (rule : FilterRule) : Plain rule.toValue :=
  plainMembers_iff.mpr (by simp [Plain])

theorem Verdict.plain_optionalMember {value : Option Value} {name : String}
    (plain : ∀ content ∈ value, Plain content) :
    ∀ member ∈ Verdict.optionalMember name value, Plain member.2 := by
  cases value with
  | none => simp [Verdict.optionalMember]
  | some content => simpa [Verdict.optionalMember] using plain

theorem Verdict.plain_toValue (verdict : Verdict) : Plain verdict.toValue := by
  have rules : Plain (.list (verdict.rules.map FilterRule.toValue)) := by
    refine plainItems_iff.mpr fun item member => ?_
    obtain ⟨rule, _, rfl⟩ := List.mem_map.mp member
    exact rule.plain_toValue
  refine plainMembers_iff.mpr fun member present => ?_
  simp only [List.mem_append] at present
  rcases present with (((first | listed) | service) | canonicalName)
  · revert member
    simp [Plain]
  · split at listed
    · simp at listed
    · rw [List.mem_singleton.mp listed]
      exact rules
  · exact Verdict.plain_optionalMember (by simp [Plain]) member service
  · exact Verdict.plain_optionalMember (by simp [Plain]) member canonicalName

namespace Entry

theorem plain_toValue (entry : Entry) : Plain entry.toValue := by
  refine plainMembers_iff.mpr fun member present => ?_
  simp only [List.mem_append] at present
  rcases present with
    (((((((start | clientId) | question) | answer) | received) | resolver) | outcome) | cached)
  · revert member
    simp [Plain]
  · exact Verdict.plain_optionalMember (by simp [Plain]) member clientId
  · revert member
    simp [Plain]
  · exact Verdict.plain_optionalMember (by simp [Plain]) member answer
  · exact Verdict.plain_optionalMember (by simp [Plain]) member received
  · exact Verdict.plain_optionalMember (by simp [Plain]) member resolver
  · have elapsed : Plain entry.elapsed.toValue := plainMembers_iff.mpr (by simp [Plain])
    simp only [List.mem_cons, List.not_mem_nil, or_false] at outcome
    rcases outcome with rfl | rfl
    · exact entry.verdict.plain_toValue
    · exact elapsed
  · split at cached
    · rw [List.mem_singleton.mp cached]
      trivial
    · simp at cached

theorem parse?_lineBody (entry : Entry) : Json.parse? entry.lineBody = some entry.toValue :=
  Json.parse?_render entry.plain_toValue

theorem le_of_mem_lineBody {entry : Entry} {byte : UInt8} (member : byte ∈ entry.lineBody) :
    0x20 ≤ byte.toNat :=
  Json.le_of_mem_encode_render member

theorem newline_not_mem_lineBody (entry : Entry) : newline ∉ entry.lineBody := by
  intro member
  have printable := le_of_mem_lineBody member
  revert printable
  decide

theorem lineBody_ne_nil (entry : Entry) : entry.lineBody ≠ [] := by
  have start : Json.render entry.toValue = '\x7b' :: (Json.render entry.toValue).tail := rfl
  rw [lineBody, start, Utf8.encode, List.flatMap_cons]
  exact List.append_ne_nil_of_left_ne_nil (by decide) _

theorem withoutLast_concat (body : Bytes) (last : UInt8) :
    withoutLast last (body ++ [last]) = body := by
  rw [withoutLast, List.getLast?_concat, if_pos (by simp), List.dropLast_concat]

/-- Bytes without control characters have no line end to be removed. -/
theorem withoutLast_lineBody (entry : Entry) {last : UInt8} (control : last.toNat < 0x20) :
    withoutLast last entry.lineBody = entry.lineBody := by
  rw [withoutLast, if_neg]
  intro ends
  have member := List.mem_of_getLast? (beq_iff_eq.mp ends)
  exact Nat.not_le.mpr control (le_of_mem_lineBody member)

theorem ofLine?_of_withoutLast {entry : Entry} {bytes : Bytes}
    (body : withoutLast 0x0D (withoutLast newline bytes) = entry.lineBody) :
    ofLine? bytes = some entry := by
  rw [ofLine?, body, parse?_lineBody, Option.bind_some, ofValue?_toValue]

theorem ofLine?_lineBody (entry : Entry) : ofLine? entry.lineBody = some entry := by
  refine ofLine?_of_withoutLast ?_
  rw [withoutLast_lineBody entry (by decide), withoutLast_lineBody entry (by decide)]

theorem ofLine?_line (entry : Entry) : ofLine? entry.line = some entry := by
  refine ofLine?_of_withoutLast ?_
  rw [line, withoutLast_concat, withoutLast_lineBody entry (by decide)]

theorem ofLine?_carriage (entry : Entry) :
    ofLine? (entry.lineBody ++ [0x0D, newline]) = some entry := by
  refine ofLine?_of_withoutLast ?_
  have ends : entry.lineBody ++ [0x0D, newline] = (entry.lineBody ++ [0x0D]) ++ [newline] := by
    simp
  rw [ends, withoutLast_concat, withoutLast_concat]

theorem splitOn_flatMap_line (entries : List Entry) :
    (entries.flatMap line).splitOn newline = entries.map lineBody ++ [[]] :=
  splitOn_flatMap_concat fun entry _ => entry.newline_not_mem_lineBody

theorem mapM_ofLine?_lineBody (entries : List Entry) :
    (entries.map lineBody).mapM ofLine? = some entries := by
  induction entries with
  | nil => rfl
  | cons entry entries ih =>
      rw [List.map_cons, List.mapM_cons, ofLine?_lineBody, ih]
      rfl

theorem filter_map_lineBody (entries : List Entry) :
    (entries.map lineBody ++ [[]]).filter (fun piece => !piece.isEmpty) =
      entries.map lineBody := by
  rw [List.filter_append, List.filter_eq_self.mpr]
  · simp
  · intro piece member
    obtain ⟨entry, _, rfl⟩ := List.mem_map.mp member
    simpa using entry.lineBody_ne_nil

/-- The line form of entries loses nothing. Each line ends in its only newline and is more than
that, and it is read with its newline, without it, and with the line end of other systems. Lines one
after another are split at the newlines into nothing but the lines, so the entries are read
from them in their order. -/
theorem line_readBack :
    (∀ entry : Entry, ∃ body : Bytes,
      entry.line = body ++ [newline] ∧ newline ∉ body ∧ body ≠ [] ∧
        ofLine? entry.line = some entry ∧ ofLine? body = some entry ∧
          ofLine? (body ++ [0x0D, newline]) = some entry) ∧
    ∀ entries : List Entry,
      ((entries.flatMap line).splitOn newline).getLast? = some [] ∧
        ((entries.flatMap line).splitOn newline).dropLast.mapM ofLine? = some entries ∧
          (((entries.flatMap line).splitOn newline).filter (fun piece => !piece.isEmpty)).mapM
            ofLine? = some entries := by
  constructor
  · intro entry
    exact ⟨entry.lineBody, rfl, entry.newline_not_mem_lineBody, entry.lineBody_ne_nil,
      entry.ofLine?_line, entry.ofLine?_lineBody, entry.ofLine?_carriage⟩
  · intro entries
    rw [splitOn_flatMap_line, filter_map_lineBody, List.getLast?_concat, List.dropLast_concat]
    exact ⟨rfl, mapM_ofLine?_lineBody entries, mapM_ofLine?_lineBody entries⟩

end Entry

end QueryJournal
