import QueryJournal.Failure
import QueryJournal.Text.Utf8

namespace QueryJournal.Backward

open QueryJournal.Utf8 (Bytes)

/-!
Reading the lines of a file from the last to the first. The file is taken in chunks from its end.
A line that grows too long is reported once, and the rest of it is passed over. Everything that
is held lies in reverse, so that a chunk is taken from the front of `unread` and a line from the
front of `window`.
-/

def newline : UInt8 := 0x0A

def chunkLength : Nat := 65536

def maxLineLength : Nat := 1048576

/-- A line, the report of one that is too long with as many bytes of it as were read, or the report
that reading failed. -/
inductive Item where
  | line (bytes : Bytes)
  | oversized (length : Nat)
  | unreadable
  deriving DecidableEq

/-- The failure that reports a line of which a number of bytes were read. -/
def Item.oversizedFailure (length : Nat) : Failure :=
  .decoding ("line exceeds " ++ String.ofList (Numeral.decimal maxLineLength) ++ " bytes (" ++
    String.ofList (Numeral.decimal length) ++ " read so far)")

/-- The bytes before the window, the window, whether the line that reaches into the window was
already reported, and the number of bytes at the start that cannot be read. -/
structure Reader where
  unread : Bytes
  window : Bytes := []
  discarding : Bool := false
  unreadable : Nat := 0
  deriving DecidableEq

namespace Reader

def ofContent (content : Bytes) (limit : Option Nat) : Reader :=
  let counted := match limit with
    | none => content
    | some limit => content.take limit
  { unread := counted.reverse }

def ofUnreadable : Reader :=
  { unread := [0], unreadable := 1 }

def size (reader : Reader) : Nat :=
  reader.unread.length + reader.window.length

def isStuck (reader : Reader) : Bool :=
  reader.unread.length < reader.unreadable + min chunkLength reader.unread.length

def withChunk (reader : Reader) : Reader :=
  { reader with
    unread := reader.unread.drop chunkLength
    window := reader.window ++ reader.unread.take chunkLength }

/-- The bytes before the first newline, and those after it if there is one. -/
def splitLine (window : Bytes) : Bytes × Option Bytes :=
  (window.takeWhile (· != newline),
    match window.dropWhile (· != newline) with
    | [] => none
    | _ :: rest => some rest)

/-- The rest after a newline is shorter than the window by the line and the newline. -/
theorem splitLine_length {window line rest : Bytes}
    (split : splitLine window = (line, some rest)) :
    window.length = line.length + 1 + rest.length := by
  have joined := congrArg List.length
    (List.takeWhile_append_dropWhile (p := (· != newline)) (l := window))
  unfold splitLine at split
  cases found : window.dropWhile (· != newline) with
  | nil => simp [found] at split
  | cons first after =>
    simp only [found, Prod.mk.injEq, Option.some.injEq] at split
    rw [found, split.1, split.2] at joined
    simp only [List.length_append, List.length_cons] at joined
    omega

theorem splitLine_none {window line : Bytes} (split : splitLine window = (line, none)) :
    window = line := by
  have joined := List.takeWhile_append_dropWhile (p := (· != newline)) (l := window)
  unfold splitLine at split
  cases found : window.dropWhile (· != newline) with
  | cons first after => simp [found] at split
  | nil =>
    simp only [found, Prod.mk.injEq, and_true] at split
    rw [found, List.append_nil, split] at joined
    exact joined.symm

/-- The next item towards the start of the file, if there is one, and the reader after it. -/
def next (reader : Reader) : Option Item × Reader :=
  match _split : splitLine reader.window with
  | (line, some rest) =>
    if reader.discarding then next { reader with window := rest, discarding := false }
    else if line.isEmpty then next { reader with window := rest }
    else (some (.line line.reverse), { reader with window := rest })
  | (line, none) =>
    if reader.discarding then
      if reader.unread.isEmpty then (none, { reader with window := [], discarding := false })
      else if reader.isStuck then (some .unreadable, { reader with window := [] })
      else next { reader with window := [] }.withChunk
    else if maxLineLength < line.length then
      (some (.oversized line.length), { reader with window := [], discarding := true })
    else if reader.unread.isEmpty then
      if line.isEmpty then (none, reader)
      else (some (.line line.reverse), { reader with window := [] })
    else if reader.isStuck then (some .unreadable, reader)
    else next reader.withChunk
termination_by (reader.unread.length, reader.window.length)
decreasing_by
  · right
    have shorter := splitLine_length _split
    omega
  · right
    have shorter := splitLine_length _split
    omega
  · left
    have present : reader.unread ≠ [] := by simp_all
    have positive := List.length_pos_iff.mpr present
    simp only [withChunk, List.length_drop, chunkLength]
    omega
  · left
    have present : reader.unread ≠ [] := by simp_all
    have positive := List.length_pos_iff.mpr present
    simp only [withChunk, List.length_drop, chunkLength]
    omega

@[simp] theorem size_withChunk (reader : Reader) : reader.withChunk.size = reader.size := by
  simp only [withChunk, size, List.length_append, List.length_drop, List.length_take]
  omega

/-- Every item but a failure passes at least one byte. -/
theorem next_size_lt {reader after : Reader} {item : Item}
    (found : reader.next = (some item, after)) (readable : item ≠ .unreadable) :
    after.size < reader.size := by
  fun_induction next reader generalizing after with
  | case1 reader line rest split _ ih =>
    have shorter := splitLine_length split
    have inner := ih found
    simp only [size] at inner ⊢
    omega
  | case2 reader line rest split _ _ ih =>
    have shorter := splitLine_length split
    have inner := ih found
    simp only [size] at inner ⊢
    omega
  | case3 reader line rest split _ _ =>
    have shorter := splitLine_length split
    cases found
    simp only [size]
    omega
  | case4 => simp at found
  | case5 => simp_all
  | case6 reader line split _ _ _ ih =>
    have inner := ih found
    rw [size_withChunk] at inner
    simp only [size, List.length_nil] at inner ⊢
    omega
  | case7 reader line split _ long =>
    have whole := splitLine_none split
    cases found
    simp only [size, List.length_nil]
    rw [whole]
    have positive : 0 < line.length := Nat.lt_of_le_of_lt (Nat.zero_le _) long
    omega
  | case8 => simp at found
  | case9 reader line split _ _ _ present =>
    have whole := splitLine_none split
    cases found
    simp only [size, List.length_nil]
    rw [whole]
    have positive : 0 < line.length := by
      cases line with
      | nil => simp at present
      | cons => simp
    omega
  | case10 => simp_all
  | case11 reader line split _ _ _ _ ih =>
    have inner := ih found
    rw [size_withChunk] at inner
    exact inner

end Reader

end QueryJournal.Backward
