import QueryJournal.Proofs.Segment.Backward
import QueryJournal.Search.Scan

namespace QueryJournal.Search

open QueryJournal.Backward

/-!
What a search without a deadline answers, as a definition over whole lists. The search itself goes
through its candidates once; `Reflects` relates what it has collected to the candidates that it has
seen.
-/

/-- What a search asks of an entry: to lie before the time that is set, and to satisfy every
criterion. -/
def Request.Wants (request : Request) (entry : Entry) : Prop :=
  (∀ time ∈ request.olderThan, entry.time.isBefore time = true) ∧
    ∀ criterion ∈ request.criteria, criterion.admits entry = true

theorem Request.admits_iff {request : Request} {entry : Entry} :
    request.admits entry = true ↔ request.Wants entry := by
  cases bound : request.olderThan <;> simp [Request.admits, Request.Wants, bound]

instance (request : Request) (entry : Entry) : Decidable (request.Wants entry) :=
  decidable_of_iff _ Request.admits_iff

def kept (request : Request) (candidates : List Entry) : List Entry :=
  candidates.filter fun entry => request.Wants entry

/-- The part of the matching entries that lies on the page of a search. -/
def pageOf (request : Request) (found : List Entry) : List Entry :=
  (found.drop request.offset).take request.limit

def entryOf? : Item → Option Entry
  | .line bytes => Entry.ofLine? bytes
  | _ => none

def isSkipped (item : Item) : Bool :=
  (entryOf? item).isNone

def inspectedAfter (request : Request) (before : Nat) (reader : Reader) : List Item :=
  if request.scanCap = 0 then reader.items else reader.items.take (request.scanCap - before)

/-- The items of a file that a search looks at; one that cannot be opened has none. -/
def inspected (request : Request) (file : Option Reader) : List Item :=
  file.elim [] (inspectedAfter request 0)

def candidates (request : Request) (memory : List Entry) (files : List (Option Reader)) :
    List Entry :=
  memory ++ files.flatMap fun file => (inspected request file).filterMap entryOf?

/-- The answer that a search without a deadline has to give. -/
def reference (request : Request) (memory : List Entry) (files : List (Option Reader)) : Page :=
  let found := kept request (candidates request memory files)
  { entries := pageOf request found
    matched := found.length
    oldest := (pageOf request found).getLast?.map Entry.time
    skipped := (files.flatMap (inspected request)).countP isSkipped
    truncated := false }

/-!
### The search goes through its candidates
-/

variable {request : Request} {collector : Collector} {seen found : List Entry} {entry : Entry}
  {skipped : Nat}

/-- What a search has collected from the candidates that it has seen, next to a number of items
that it has passed over. -/
structure Reflects (request : Request) (seen : List Entry) (skipped : Nat)
    (collector : Collector) : Prop where
  matched : collector.matched = (kept request seen).length
  found : collector.found.reverse = pageOf request (kept request seen)
  skipped : collector.skipped = skipped
  going : collector.truncated = false

theorem reflects_start (request : Request) : Reflects request [] 0 {} :=
  { matched := rfl
    found := by simp [kept, pageOf]
    skipped := rfl
    going := rfl }

/-- One more match lies on the page if its place is not before the page and not after it. -/
theorem pageOf_concat (request : Request) (found : List Entry) (entry : Entry) :
    pageOf request (found ++ [entry]) =
      if request.offset ≤ found.length ∧ found.length - request.offset < request.limit then
        pageOf request found ++ [entry]
      else pageOf request found := by
  by_cases reached : request.offset ≤ found.length
  · have dropped : (found ++ [entry]).drop request.offset =
        found.drop request.offset ++ [entry] := List.drop_append_of_le_length reached
    have length : (found.drop request.offset).length = found.length - request.offset :=
      List.length_drop
    by_cases room : found.length - request.offset < request.limit
    · rw [if_pos ⟨reached, room⟩, pageOf, pageOf, dropped, List.take_append,
        List.take_of_length_le (l := [entry])]
      rw [List.length_singleton, length]
      omega
    · rw [if_neg fun onPage => room onPage.2, pageOf, pageOf, dropped,
        List.take_append_of_le_length]
      omega
  · have short : found.length < request.offset := Nat.lt_of_not_le reached
    rw [if_neg fun onPage => reached onPage.1, pageOf, pageOf, List.drop_of_length_le,
      List.drop_of_length_le (Nat.le_of_lt short)]
    rw [List.length_append, List.length_singleton]
    exact short

theorem kept_concat_of_wants (wanted : request.Wants entry) (seen : List Entry) :
    kept request (seen ++ [entry]) = kept request seen ++ [entry] := by
  rw [kept, List.filter_append, List.filter_cons_of_pos (by simpa using wanted), List.filter_nil]
  rfl

theorem kept_concat_of_not_wants (other : ¬ request.Wants entry) (seen : List Entry) :
    kept request (seen ++ [entry]) = kept request seen := by
  rw [kept, List.filter_append, List.filter_cons_of_neg (by simpa using other), List.filter_nil,
    List.append_nil]
  rfl

theorem Reflects.offer (reflects : Reflects request seen skipped collector) (entry : Entry) :
    Reflects request (seen ++ [entry]) skipped (collector.offer request entry) := by
  by_cases wanted : request.Wants entry
  · have admitted := Request.admits_iff.mpr wanted
    simp only [Collector.offer, admitted, ↓reduceIte]
    refine { matched := ?_, found := ?_, skipped := reflects.skipped, going := reflects.going }
    · rw [kept_concat_of_wants wanted, List.length_append, ← reflects.matched]
      rfl
    · rw [kept_concat_of_wants wanted, pageOf_concat, ← reflects.matched, ← reflects.found]
      split <;> simp
  · have refused : request.admits entry = false :=
      Bool.eq_false_iff.mpr fun admitted => wanted (Request.admits_iff.mp admitted)
    rw [Collector.offer, if_neg (by simp [refused])]
    refine { matched := ?_, found := ?_, skipped := reflects.skipped, going := reflects.going }
    · rw [kept_concat_of_not_wants wanted, reflects.matched]
    · rw [kept_concat_of_not_wants wanted, reflects.found]

theorem Reflects.foldl_offer (reflects : Reflects request seen skipped collector)
    (entries : List Entry) :
    Reflects request (seen ++ entries) skipped
      (entries.foldl (Collector.offer request) collector) := by
  induction entries generalizing seen collector with
  | nil => simpa using reflects
  | cons entry entries ih =>
      have next := ih (reflects.offer entry)
      rwa [List.append_assoc, List.singleton_append] at next

theorem Reflects.skip (reflects : Reflects request seen skipped collector) :
    Reflects request seen (skipped + 1) collector.skip :=
  { matched := reflects.matched
    found := reflects.found
    skipped := congrArg (· + 1) reflects.skipped
    going := reflects.going }

theorem Reflects.tell (reflects : Reflects request seen skipped collector) (level : Logging.Level)
    (message detail : String) :
    Reflects request seen skipped (collector.tell level message detail) :=
  { matched := reflects.matched
    found := reflects.found
    skipped := reflects.skipped
    going := reflects.going }

theorem look_eq_self (unhurried : request.deadline = none) (collector : Collector) :
    collector.look clock request = collector := by
  rw [Collector.look, unhurried]

theorem Reflects.takeLine (reflects : Reflects request seen skipped collector)
    (bytes : Utf8.Bytes) :
    Reflects request (seen ++ (entryOf? (.line bytes)).toList)
      (skipped + [Item.line bytes].countP isSkipped) (collector.takeLine request bytes) := by
  cases read : Entry.ofLine? bytes with
  | none =>
      have next := reflects.skip.tell .debug "Skipping corrupt record" "error"
      simpa [Collector.takeLine, entryOf?, isSkipped, read] using next
  | some entry =>
      have next := reflects.offer entry
      simpa [Collector.takeLine, entryOf?, isSkipped, read] using next

theorem inspectedAfter_nil {before : Nat} {reader : Reader} (ended : reader.items = []) :
    inspectedAfter request before reader = [] := by
  rw [inspectedAfter, ended, List.take_nil, ite_self]

/-- The next item is looked at unless the cap is reached. -/
theorem inspectedAfter_cons {before : Nat} {reader after : Reader} {item : Item}
    (next : reader.items = item :: after.items)
    (room : ¬ (request.scanCap ≠ 0 ∧ request.scanCap ≤ before)) :
    inspectedAfter request before reader =
      item :: inspectedAfter request (before + 1) after := by
  by_cases uncapped : request.scanCap = 0
  · simp only [inspectedAfter, uncapped, ↓reduceIte, next]
  · have left : request.scanCap - before = request.scanCap - (before + 1) + 1 := by omega
    simp only [inspectedAfter, uncapped, ↓reduceIte, next, left, List.take_succ_cons]

theorem Reflects.takeLines (reflects : Reflects request seen skipped collector)
    (unhurried : request.deadline = none) (clock : Clock) (before : Nat) (reader : Reader) :
    Reflects request (seen ++ (inspectedAfter request before reader).filterMap entryOf?)
      (skipped + (inspectedAfter request before reader).countP isSkipped)
      (collector.takeLines clock request before reader) := by
  fun_induction Collector.takeLines clock request collector before reader
    generalizing seen skipped with
  | case1 collector before reader capped =>
      have none : inspectedAfter request before reader = [] := by
        rw [inspectedAfter, if_neg capped.1, Nat.sub_eq_zero_of_le capped.2, List.take_zero]
      simpa [none] using reflects.tell .debug "Scanned segment" "inspected"
  | case2 =>
      rename_i collector before reader room looked ended
      have same : looked = collector := look_eq_self unhurried collector
      rw [same, reflects.going] at ended
      contradiction
  | case3 =>
      rename_i collector before reader room looked going after found
      have same : looked = collector := look_eq_self unhurried collector
      have none : inspectedAfter request before reader = [] :=
        inspectedAfter_nil (Reader.items_of_none found)
      simpa [none, same] using reflects.tell .debug "Scanned segment" "inspected"
  | case4 =>
      rename_i collector before reader room looked going after found
      have same : looked = collector := look_eq_self unhurried collector
      have none : inspectedAfter request before reader = [] :=
        inspectedAfter_nil (Reader.items_of_unreadable found)
      simpa [none, same] using (reflects.tell .warn "Aborting segment scan" "error").tell .debug
        "Scanned segment" "inspected"
  | case5 =>
      rename_i collector before reader room looked going length after found ih
      have same : looked = collector := look_eq_self unhurried collector
      rw [inspectedAfter_cons (Reader.items_of_oversized found) room,
        List.filterMap_cons_none rfl, List.countP_cons_of_pos rfl]
      rw [same] at ih ⊢
      have next := ih (reflects.skip.tell .debug "Skipping unreadable record" "error")
      rwa [Nat.add_assoc, Nat.add_comm 1] at next
  | case6 =>
      rename_i collector before reader room looked going bytes after found ih
      have same : looked = collector := look_eq_self unhurried collector
      have single : [Item.line bytes].filterMap entryOf? = (entryOf? (.line bytes)).toList := by
        cases read : entryOf? (.line bytes) <;> simp [read]
      rw [inspectedAfter_cons (Reader.items_of_line found) room, ← List.singleton_append,
        List.filterMap_append, List.countP_append, ← List.append_assoc, ← Nat.add_assoc, single]
      rw [same] at ih ⊢
      exact ih (reflects.takeLine bytes)

theorem Reflects.takeFile (reflects : Reflects request seen skipped collector)
    (unhurried : request.deadline = none) (clock : Clock) (file : Option Reader) :
    Reflects request (seen ++ (inspected request file).filterMap entryOf?)
      (skipped + (inspected request file).countP isSkipped)
      (collector.takeFile clock request file) := by
  simp only [Collector.takeFile, look_eq_self unhurried, reflects.going, Bool.false_eq_true,
    ↓reduceIte]
  cases file with
  | none => simpa [inspected] using reflects.tell .warn "Skipping unreadable segment" "error"
  | some reader => exact reflects.takeLines unhurried clock 0 reader

theorem Reflects.foldl_takeFile (reflects : Reflects request seen skipped collector)
    (unhurried : request.deadline = none) (clock : Clock) (files : List (Option Reader)) :
    Reflects request (seen ++ files.flatMap fun file => (inspected request file).filterMap entryOf?)
      (skipped + (files.flatMap (inspected request)).countP isSkipped)
      (files.foldl (Collector.takeFile clock request) collector) := by
  induction files generalizing seen skipped collector with
  | nil => simpa using reflects
  | cons file files ih =>
      have next := ih (reflects.takeFile unhurried clock file)
      rwa [List.append_assoc, Nat.add_assoc, ← List.countP_append] at next

/-- A search collects from memory first and then from file after file. -/
theorem collect_reflects (unhurried : request.deadline = none) (clock : Clock)
    (memory : List Entry) (files : List (Option Reader)) :
    Reflects request (candidates request memory files)
      ((files.flatMap (inspected request)).countP isSkipped)
      (collect clock request memory files) := by
  have start := (reflects_start request).foldl_offer memory
  have whole := start.foldl_takeFile unhurried clock files
  rwa [List.nil_append, Nat.zero_add] at whole

theorem Reflects.page (reflects : Reflects request seen skipped collector) :
    collector.page =
      { entries := pageOf request (kept request seen)
        matched := (kept request seen).length
        oldest := (pageOf request (kept request seen)).getLast?.map Entry.time
        skipped
        truncated := false } := by
  have last : collector.found.head? = (pageOf request (kept request seen)).getLast? := by
    rw [← reflects.found, List.getLast?_reverse]
  rw [Collector.page, reflects.matched, reflects.found, reflects.skipped, reflects.going, last]

/-- The answer of a search without a deadline is that of its definition. -/
theorem page_run (unhurried : request.deadline = none) (clock : Clock) (memory : List Entry)
    (files : List (Option Reader)) :
    (run clock request memory files).page = reference request memory files :=
  (collect_reflects unhurried clock memory files).page

/-!
### Searches for everything
-/

/-- A search for everything, on one page that has room for a number of entries. -/
structure Request.Unbounded (request : Request) (total : Nat) : Prop where
  criteria : request.criteria = []
  olderThan : request.olderThan = none
  deadline : request.deadline = none
  scanCap : request.scanCap = 0
  offset : request.offset = 0
  room : total ≤ request.limit

/-- All items of a file, of which one that cannot be opened has none. -/
def itemsOf (file : Option Reader) : List Item :=
  file.elim [] Reader.items

theorem inspected_uncapped (uncapped : request.scanCap = 0) (file : Option Reader) :
    inspected request file = itemsOf file := by
  cases file with
  | none => rfl
  | some reader => simp [inspected, itemsOf, inspectedAfter, uncapped]

theorem kept_of_no_conditions (criteria : request.criteria = [])
    (olderThan : request.olderThan = none) (entries : List Entry) :
    kept request entries = entries := by
  rw [kept, List.filter_eq_self]
  intro entry _
  simp [Request.Wants, criteria, olderThan]

/-- A search for everything answers all entries of memory and of files. -/
theorem page_run_unbounded (clock : Clock) (memory : List Entry) (files : List (Option Reader))
    {stored : List Entry} (found : (files.flatMap itemsOf).filterMap entryOf? = stored)
    (unbounded : request.Unbounded (memory ++ stored).length) :
    (run clock request memory files).page =
      { entries := memory ++ stored
        matched := (memory ++ stored).length
        oldest := (memory ++ stored).getLast?.map Entry.time
        skipped := (files.flatMap itemsOf).countP isSkipped
        truncated := false } := by
  have all : candidates request memory files = memory ++ stored := by
    simp only [candidates, inspected_uncapped unbounded.scanCap, ← found, List.filterMap_flatMap]
  have items : inspected request = itemsOf :=
    funext (inspected_uncapped unbounded.scanCap)
  have page : pageOf request (memory ++ stored) = memory ++ stored := by
    rw [pageOf, unbounded.offset, List.drop_zero, List.take_of_length_le unbounded.room]
  simp only [page_run unbounded.deadline, reference, all, items, page,
    kept_of_no_conditions unbounded.criteria unbounded.olderThan]

/-!
### Pages
-/

theorem entries_slice (unhurried : request.deadline = none) (clock : Clock) (memory : List Entry)
    (files : List (Option Reader)) (offset limit whole : Nat)
    (enough : (kept request (candidates request memory files)).length ≤ whole) :
    (run clock { request with offset, limit } memory files).page.entries =
      ((run clock { request with offset := 0, limit := whole } memory files).page.entries.drop
        offset).take limit := by
  have page : ∀ offset limit,
      (run clock { request with offset, limit } memory files).page.entries =
        ((kept request (candidates request memory files)).drop offset).take limit := by
    intro offset limit
    have still : ({ request with offset, limit } : Request).deadline = none := unhurried
    exact congrArg Page.entries (page_run still clock memory files)
  rw [page, page, List.drop_zero, List.take_of_length_le enough]

/-- Whether a match lies on the page is found without leaving words of eight bytes: the difference
is only looked at where it does not wrap around. -/
theorem offer_words (request : Request) (offset limit index : UInt64) (entry : Entry)
    (collector : Collector) (counted : collector.matched = index.toNat) :
    collector.offer { request with offset := offset.toNat, limit := limit.toNat } entry =
      if request.admits entry then
        { collector with
          matched := index.toNat + 1
          found :=
            if offset ≤ index ∧ index - offset < limit then entry :: collector.found
            else collector.found }
      else collector := by
  have same : (offset.toNat ≤ index.toNat ∧ index.toNat - offset.toNat < limit.toNat) ↔
      (offset ≤ index ∧ index - offset < limit) := by
    rw [UInt64.le_iff_toNat_le, UInt64.lt_iff_toNat_lt]
    refine and_congr_right fun reached => ?_
    rw [UInt64.toNat_sub_of_le _ _ (UInt64.le_iff_toNat_le.mpr reached)]
  have admits : Request.admits { request with offset := offset.toNat, limit := limit.toNat }
      entry = request.admits entry := rfl
  simp only [Collector.offer, admits, counted, same]

/-- A search without a deadline answers what its definition says, whatever lies in memory and in
files that may hold any bytes, fail to open or fail to be read. Every page is a slice of all
matches, and what lies on it is found in words of eight bytes for every offset and limit. -/
theorem run_answers_reference (request : Request) (unhurried : request.deadline = none)
    (clock : Clock) (memory : List Entry) (files : List (Option Reader)) :
    (run clock request memory files).page = reference request memory files ∧
    (∀ offset limit whole, (kept request (candidates request memory files)).length ≤ whole →
      (run clock { request with offset, limit } memory files).page.entries =
        ((run clock { request with offset := 0, limit := whole } memory files).page.entries.drop
          offset).take limit) ∧
    ∀ (offset limit index : UInt64) (entry : Entry) (collector : Collector),
      collector.matched = index.toNat →
        collector.offer { request with offset := offset.toNat, limit := limit.toNat } entry =
          if request.admits entry then
            { collector with
              matched := index.toNat + 1
              found :=
                if offset ≤ index ∧ index - offset < limit then entry :: collector.found
                else collector.found }
          else collector :=
  ⟨page_run unhurried clock memory files, entries_slice unhurried clock memory files,
    offer_words request⟩

/-- The second of two entries in memory makes the second page of one entry each. -/
theorem run_answers_second_page :
    (run (fun _ => 0) { offset := 1, limit := 1 } [default, default] [none]).page =
      { entries := [default]
        matched := 2
        oldest := some default
        skipped := 0
        truncated := false } :=
  (run_answers_reference { offset := 1, limit := 1 } rfl (fun _ => 0) [default, default]
    [none]).1.trans (by decide)

end QueryJournal.Search
