import QueryJournal.Proofs.Journal.Shelf

namespace QueryJournal.Pipeline

open QueryJournal.Backward
open QueryJournal.Search (entryOf? isSkipped)
open QueryJournal.Storage

/-!
Between any two steps a log holds what its ledger says: in memory what waits, in files what is
stored. A search that looks at that moment finds the records of the ledger, the newest one first.
-/

variable {ledger : Ledger} {state before after first last : Pipeline} {event : Ledger.Event}
  {events : List Ledger.Event}

/-- The log holds the records of the ledger. -/
structure Sound (ledger : Ledger) (state : Pipeline) : Prop where
  memory : state.journal.buffer.Holds ledger
  batch : ledger.waiting.take ledger.inFlight = state.phase.batch
  short : ∀ entry ∈ ledger.waiting, entry.lineBody.length ≤ maxLineLength
  files : ∃ older current, ledger.stored = older ++ current ∧
    (∀ entry ∈ current, entry.lineBody.length ≤ maxLineLength) ∧
      Shelved older current ledger.unread state.journal.catalog state.journal.writer state.disk
        state.phase

theorem waiting_after_taken (ledger : Ledger) :
    (ledger.after .taken).waiting.take (ledger.after .taken).inFlight = ledger.waiting := by
  have length := ledger.length_waiting
  exact List.take_of_length_le (Nat.le_of_eq length)

theorem take_waiting_append (ledger : Ledger) (entry : Entry) :
    (ledger.append entry).waiting.take (ledger.append entry).inFlight =
      ledger.waiting.take ledger.inFlight := by
  have length : (ledger.waiting.take ledger.inFlight).length = ledger.inFlight := by
    rw [List.length_take, Nat.min_eq_left ledger.inFlight_le]
  have count : (ledger.append entry).inFlight = (ledger.waiting.take ledger.inFlight).length :=
    length.symm
  rw [Ledger.waiting_append, List.append_assoc, count, List.take_left]

theorem Sound.step (sound : Sound ledger before) (step : Step before event after) :
    Sound (ledger.after event) after := by
  obtain ⟨memory, batch, short, older, current, stored, shortCurrent, shelved⟩ := sound
  cases step with
  | append _ entry shortEntry =>
      refine
        { memory := memory.append entry
          batch := (take_waiting_append ledger entry).trans batch
          short := ?_
          files := ⟨older, current, (ledger.stored_append entry).trans stored, shortCurrent,
            shelved⟩ }
      intro other member
      change other ∈ (ledger.append entry).waiting at member
      rw [Ledger.waiting_append, List.mem_append, List.mem_append, List.mem_singleton] at member
      rcases member with (flying | kept) | rfl
      · exact short other (List.mem_of_mem_take flying)
      · exact short other (List.mem_of_mem_drop kept)
      · exact shortEntry
  | take =>
      have moved := shelved.rephase Phase.isQuiet_idle
        (Phase.isQuiet_taken ledger.waiting) rfl rfl rfl (fun _ => rfl) trivial nofun
      exact
        { memory := memory.pending.2
          batch := (waiting_after_taken ledger).trans memory.pending.1.symm
          short
          files := ⟨older, current, stored, shortCurrent, memory.pending.1 ▸ moved⟩ }
  | leave =>
      have moved := shelved.rephase (Phase.isQuiet_taken []) Phase.isQuiet_idle rfl rfl rfl
        (fun _ => rfl) trivial nofun
      exact ⟨memory, batch, short, older, current, stored, shortCurrent, moved⟩
  | resume present =>
      simp only [present] at shelved
      refine ⟨memory, batch, short, older, current, stored, shortCurrent, ?_⟩
      rw [present]
      exact shelved.resume
  | number now absent =>
      exact ⟨memory, batch, short, older, current, stored, shortCurrent,
        shelved.rephase (Phase.isQuiet_taken _) (Phase.isQuiet_numbered _ _) rfl rfl rfl
          (fun _ => rfl) absent nofun⟩
  | make obstacles made =>
      have absent := shelved.allowed
      simp only [Phase.Allows] at absent
      rw [absent] at shelved
      exact ⟨memory, batch, short, older, current, stored, shortCurrent, shelved.make made⟩
  | refuse obstacles refused =>
      have absent := shelved.allowed
      simp only [Phase.Allows] at absent
      rw [absent] at shelved
      refine ⟨memory, batch, short, older, current, stored, shortCurrent, ?_⟩
      rw [absent]
      exact shelved.refuse refused
  | activate present =>
      simp only [present] at shelved
      refine ⟨memory, batch, short, older, current, stored, shortCurrent, ?_⟩
      simp only [present]
      exact shelved.activate
  | grow obstacles present =>
      simp only [present] at shelved
      refine ⟨memory, batch, short, older, current, stored, shortCurrent, ?_⟩
      simp only [present]
      exact shelved.grow obstacles
  | land obstacles present whole =>
      simp only [present] at shelved
      exact ⟨memory, batch, short, older, current, stored, shortCurrent, shelved.land whole⟩
  | cutBack obstacles present =>
      simp only [present] at shelved
      refine ⟨memory, batch, short, older, current, stored, shortCurrent, ?_⟩
      simp only [present]
      exact shelved.cutBack obstacles
  | @commit journal disk records writer present =>
      simp only [present] at shelved
      have flying : ledger.waiting.take ledger.inFlight = records := batch
      refine
        { memory := memory.commit
          batch := List.take_zero
          short := ?_
          files := ⟨older, current ++ records, ?_, ?_, ?_⟩ }
      · intro entry member
        rw [Ledger.waiting_committed] at member
        exact short entry (List.mem_of_mem_drop member)
      · rw [Ledger.stored_committed, flying, stored, List.append_assoc]
      · intro entry member
        rcases List.mem_append.mp member with earlier | written
        · exact shortCurrent entry earlier
        · exact short entry (List.mem_of_mem_take (flying ▸ written))
      · simp only [present]
        exact shelved.commit
  | abort =>
      have moved := shelved.rephase (Phase.isQuiet_failed _) Phase.isQuiet_idle rfl rfl rfl
        (fun _ => rfl) trivial nofun
      exact
        { memory := memory.abort
          batch := List.take_zero
          short
          files := ⟨older, current, stored, shortCurrent, moved⟩ }
  | close =>
      exact
        { memory
          batch
          short
          files := ⟨older ++ current, [], by rw [List.append_nil]; exact stored, by simp,
            shelved.close shortCurrent⟩ }
  | clear =>
      exact
        { memory := memory.clear
          batch := rfl
          short := by simp [Ledger.after, Ledger.waiting]
          files := ⟨[], [], rfl, by simp, shelved.clear _⟩ }
  | remove obstacles =>
      exact ⟨memory, batch, short, older, current, stored, shortCurrent,
        shelved.remove obstacles _⟩
  | finish =>
      have moved := shelved.rephase (Phase.isQuiet_clearing []) Phase.isQuiet_idle rfl rfl rfl
        (fun _ => rfl) trivial nofun
      exact ⟨memory, batch, short, older, current, stored, shortCurrent, moved⟩

theorem Sound.run (sound : Sound ledger first) (run : Run first events last) :
    Sound (ledger.afterAll events) last := by
  induction run with
  | refl => exact sound
  | step _ step ih =>
      rw [Ledger.afterAll_append]
      exact ih.step step

end QueryJournal.Pipeline
