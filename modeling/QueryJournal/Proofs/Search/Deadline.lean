import Mathlib.Data.List.Infix
import QueryJournal.Proofs.Search.Reference

namespace QueryJournal.Search

open QueryJournal.Backward

/-!
What a deadline does to a search. The search goes through its files moment by moment, and the first
look at the clock that finds the deadline passed ends it. So it answers what it would answer if the
files had nothing behind that moment.
-/

/-- One moment of a search in files: a look at the clock, or the inspection of an item. -/
inductive Moment where
  | look
  | inspection (item : Item)

namespace Moment

def item? : Moment → Option Item
  | look => none
  | inspection item => some item

def isLook : Moment → Bool
  | look => true
  | inspection _ => false

end Moment

def itemsIn (moments : List Moment) : List Item :=
  moments.filterMap Moment.item?

def looksIn (moments : List Moment) : Nat :=
  moments.countP Moment.isLook

variable {request : Request} {memory : List Entry} {clock : Clock} {deadline before : Nat}
  {reader after : Reader} {item : Item} {past left : List Moment} {collector : Collector}

theorem itemsIn_append (earlier later : List Moment) :
    itemsIn (earlier ++ later) = itemsIn earlier ++ itemsIn later :=
  List.filterMap_append

theorem looksIn_append (earlier later : List Moment) :
    looksIn (earlier ++ later) = looksIn earlier + looksIn later :=
  List.countP_append

/-- The moments of a search in a file of which `before` items were inspected. There is a look before
each item, and before it turns out that there is no other one, unless no more may be inspected. -/
def momentsAfter (request : Request) (before : Nat) (reader : Reader) : List Moment :=
  let items := inspectedAfter request before reader
  items.flatMap (fun item => [.look, .inspection item]) ++
    if request.scanCap ≠ 0 ∧ request.scanCap ≤ before + items.length then [] else [.look]

/-- The moments of a search in a file that is not interrupted. -/
def moments (request : Request) : Option Reader → List Moment
  | none => [.look]
  | some reader => .look :: momentsAfter request 0 reader

/-- The answer of a search that has inspected certain items. -/
def answerOn (request : Request) (memory : List Entry) (items : List Item) (truncated : Bool) :
    Page :=
  let found := kept request (memory ++ items.filterMap entryOf?)
  { entries := pageOf request found
    matched := found.length
    oldest := (pageOf request found).getLast?.map Entry.time
    skipped := items.countP isSkipped
    truncated }

/-!
### The moments of a file
-/

theorem itemsIn_momentsAfter (request : Request) (before : Nat) (reader : Reader) :
    itemsIn (momentsAfter request before reader) = inspectedAfter request before reader := by
  have each : ∀ items : List Item,
      itemsIn (items.flatMap fun item => [.look, .inspection item]) = items := by
    intro items
    induction items with
    | nil => rfl
    | cons item items ih =>
        rw [List.flatMap_cons, itemsIn_append, ih]
        rfl
  rw [momentsAfter, itemsIn_append, each]
  split <;> exact List.append_nil _

/-- Between its looks at the clock a search inspects the items that it inspects without them. -/
theorem itemsIn_moments (request : Request) (files : List (Option Reader)) :
    itemsIn (files.flatMap (moments request)) = files.flatMap (inspected request) := by
  induction files with
  | nil => rfl
  | cons file files ih =>
      rw [List.flatMap_cons, List.flatMap_cons, itemsIn_append, ih]
      cases file with
      | none => rfl
      | some reader => exact congrArg (· ++ _) (itemsIn_momentsAfter request 0 reader)

theorem momentsAfter_capped (capped : request.scanCap ≠ 0 ∧ request.scanCap ≤ before) :
    momentsAfter request before reader = [] := by
  have none : inspectedAfter request before reader = [] := by
    rw [inspectedAfter, if_neg capped.1, Nat.sub_eq_zero_of_le capped.2, List.take_zero]
  simp only [momentsAfter, none, List.length_nil, Nat.add_zero, if_pos capped, List.flatMap_nil,
    List.append_nil]

theorem momentsAfter_nil (ended : reader.items = [])
    (room : ¬ (request.scanCap ≠ 0 ∧ request.scanCap ≤ before)) :
    momentsAfter request before reader = [.look] := by
  simp only [momentsAfter, inspectedAfter_nil ended, List.length_nil, Nat.add_zero, if_neg room,
    List.flatMap_nil, List.nil_append]

theorem momentsAfter_cons (next : reader.items = item :: after.items)
    (room : ¬ (request.scanCap ≠ 0 ∧ request.scanCap ≤ before)) :
    momentsAfter request before reader =
      .look :: .inspection item :: momentsAfter request (before + 1) after := by
  have count : before + (inspectedAfter request (before + 1) after).length.succ =
      before + 1 + (inspectedAfter request (before + 1) after).length := by omega
  simp only [momentsAfter, inspectedAfter_cons next room, List.length_cons, count,
    List.flatMap_cons, List.cons_append, List.nil_append]

/-- Unless no more may be inspected, what is done with a file begins with a look. -/
theorem momentsAfter_room (room : ¬ (request.scanCap ≠ 0 ∧ request.scanCap ≤ before))
    (reader : Reader) : ∃ ahead, momentsAfter request before reader = .look :: ahead := by
  rw [momentsAfter]
  cases inspectedAfter request before reader with
  | nil => exact ⟨[], by rw [List.length_nil, Nat.add_zero, if_neg room]; rfl⟩
  | cons item items => exact ⟨_, rfl⟩

/-!
### Going through the moments
-/

/-- A search with a deadline that went through certain moments. All of its looks came in time, but
for one that ended it. -/
structure Went (request : Request) (memory : List Entry) (clock : Clock) (deadline : Nat)
    (past : List Moment) (collector : Collector) : Prop where
  collected : Reflects request (memory ++ (itemsIn past).filterMap entryOf?)
    ((itemsIn past).countP isSkipped) { collector with truncated := false }
  early : ∀ reading < looksIn past, clock reading < deadline
  looks : collector.looks = looksIn past + if collector.truncated then 1 else 0
  late : collector.truncated = true → deadline ≤ clock (looksIn past)

/-- What is left when a search ends: nothing, or what begins with the look that ended it. -/
def Stops (left : List Moment) (truncated : Bool) : Prop :=
  match truncated with
  | false => left = []
  | true => left.head? = some .look

theorem going_eq (going : collector.truncated = false) :
    { collector with truncated := false } = collector := by
  cases collector
  cases going
  rfl

/-- What was collected does not depend on how often the search looked at the clock. -/
theorem Reflects.looked {seen : List Entry} {skipped : Nat}
    (reflects : Reflects request seen skipped collector) (looks : Nat) :
    Reflects request seen skipped { collector with looks } :=
  { matched := reflects.matched
    found := reflects.found
    skipped := reflects.skipped
    going := reflects.going }

theorem Went.reflects (went : Went request memory clock deadline past collector)
    (going : collector.truncated = false) :
    Reflects request (memory ++ (itemsIn past).filterMap entryOf?)
      ((itemsIn past).countP isSkipped) collector := by
  have collected := went.collected
  rwa [going_eq going] at collected

theorem look_of_early (set : request.deadline = some deadline)
    (going : collector.truncated = false) (early : clock collector.looks < deadline) :
    collector.look clock request = { collector with looks := collector.looks + 1 } := by
  have still : decide (deadline ≤ clock collector.looks) = false :=
    decide_eq_false (Nat.not_le_of_lt early)
  simp only [Collector.look, set, going, Bool.false_eq_true, ↓reduceIte, still]

theorem look_of_passed (set : request.deadline = some deadline)
    (going : collector.truncated = false) (passed : deadline ≤ clock collector.looks) :
    collector.look clock request =
      { collector with truncated := true, looks := collector.looks + 1 } := by
  simp only [Collector.look, set, going, Bool.false_eq_true, ↓reduceIte, decide_eq_true passed]

/-- A look comes in time, or it ends the search and is not gone through any more. -/
theorem Went.look (went : Went request memory clock deadline past collector)
    (set : request.deadline = some deadline) (going : collector.truncated = false) :
    ((collector.look clock request).truncated = true ∧
        Went request memory clock deadline past (collector.look clock request)) ∨
      ((collector.look clock request).truncated = false ∧
        Went request memory clock deadline (past ++ [.look]) (collector.look clock request)) := by
  obtain ⟨collected, early, looks, _⟩ := went
  rw [going, if_neg Bool.false_ne_true, Nat.add_zero] at looks
  rcases Nat.lt_or_ge (clock collector.looks) deadline with soon | passed
  · rw [look_of_early set going soon]
    have count : looksIn (past ++ [.look]) = looksIn past + 1 := looksIn_append past [.look]
    have items : itemsIn (past ++ [.look]) = itemsIn past :=
      (itemsIn_append past [.look]).trans (List.append_nil _)
    refine .inr ⟨going, { collected := ?_, early := ?_, looks := ?_, late := ?_ }⟩
    · rw [items]
      exact collected.looked _
    · intro reading earlier
      rw [count, Nat.lt_succ_iff_lt_or_eq] at earlier
      rcases earlier with earlier | rfl
      · exact early reading earlier
      · exact looks ▸ soon
    · rw [going, if_neg Bool.false_ne_true, count, looks]
    · simp [going]
  · rw [look_of_passed set going passed]
    refine .inl ⟨rfl, { collected := ?_, early, looks := ?_, late := fun _ => looks ▸ passed }⟩
    · exact collected.looked _
    · rw [looks]
      rfl

/-- A search that goes on after a look made it in time. -/
theorem Went.looked (went : Went request memory clock deadline past collector)
    (set : request.deadline = some deadline) (going : collector.truncated = false)
    (still : ¬ (collector.look clock request).truncated = true) :
    (collector.look clock request).truncated = false ∧
      Went request memory clock deadline (past ++ [.look]) (collector.look clock request) :=
  (went.look set going).resolve_left fun ended => still ended.1

/-- An item is inspected, and nothing else changes. -/
theorem Went.inspect {next : Collector}
    (went : Went request memory clock deadline past collector)
    (going : collector.truncated = false) (looks : next.looks = collector.looks)
    (reflects : Reflects request
      (memory ++ (itemsIn past).filterMap entryOf? ++ (entryOf? item).toList)
      ((itemsIn past).countP isSkipped + [item].countP isSkipped) next) :
    Went request memory clock deadline (past ++ [.inspection item]) next := by
  have same : looksIn (past ++ [.inspection item]) = looksIn past :=
    looksIn_append past [.inspection item]
  have items : itemsIn (past ++ [.inspection item]) = itemsIn past ++ [item] :=
    itemsIn_append past [.inspection item]
  have single : [item].filterMap entryOf? = (entryOf? item).toList := by
    cases read : entryOf? item <;> simp [read]
  refine { collected := ?_, early := same.symm ▸ went.early, looks := ?_, late := ?_ }
  · rw [going_eq reflects.going, items, List.filterMap_append, List.countP_append,
      ← List.append_assoc, single]
    exact reflects
  · rw [same, looks, went.looks, going, reflects.going]
  · simp [reflects.going]

theorem looks_offer (request : Request) (collector : Collector) (entry : Entry) :
    (collector.offer request entry).looks = collector.looks := by
  rw [Collector.offer]
  split <;> rfl

theorem looks_foldl_offer (request : Request) (collector : Collector) (entries : List Entry) :
    (entries.foldl (Collector.offer request) collector).looks = collector.looks := by
  induction entries generalizing collector with
  | nil => rfl
  | cons entry entries ih => exact (ih _).trans (looks_offer request collector entry)

theorem looks_takeLine (request : Request) (collector : Collector) (bytes : Utf8.Bytes) :
    (collector.takeLine request bytes).looks = collector.looks := by
  rw [Collector.takeLine]
  split
  · exact looks_offer request collector _
  · rfl

theorem Went.passOver (went : Went request memory clock deadline past collector)
    (going : collector.truncated = false) (length : Nat) (level : Logging.Level)
    (message detail : String) :
    Went request memory clock deadline (past ++ [.inspection (.oversized length)])
      (collector.skip.tell level message detail) := by
  have reflects := (went.reflects going).skip.tell level message detail
  exact went.inspect going rfl (by simpa [entryOf?, isSkipped] using reflects)

theorem Went.tell (went : Went request memory clock deadline past collector)
    (level : Logging.Level) (message detail : String) :
    Went request memory clock deadline past (collector.tell level message detail) :=
  { collected := went.collected.tell level message detail
    early := went.early
    looks := went.looks
    late := went.late }

/-- From some moments on a search goes through further ones, until none is left or a look ends it. -/
def GoesOn (request : Request) (memory : List Entry) (clock : Clock) (deadline : Nat)
    (past ahead : List Moment) (collector : Collector) : Prop :=
  ∃ done left, ahead = done ++ left ∧
    Went request memory clock deadline (past ++ done) collector ∧ Stops left collector.truncated

theorem GoesOn.ended (went : Went request memory clock deadline past collector)
    (going : collector.truncated = false) :
    GoesOn request memory clock deadline past [] collector := by
  refine ⟨[], [], rfl, ?_, ?_⟩
  · rwa [List.append_nil]
  · rw [going]
    rfl

/-- A look that ends the search leaves everything from itself on. -/
theorem GoesOn.stopped (went : Went request memory clock deadline past collector)
    (ended : collector.truncated = true) (ahead : List Moment) :
    GoesOn request memory clock deadline past (.look :: ahead) collector := by
  refine ⟨[], .look :: ahead, rfl, ?_, ?_⟩
  · rwa [List.append_nil]
  · rw [ended]
    rfl

theorem GoesOn.behind {done ahead : List Moment}
    (goesOn : GoesOn request memory clock deadline (past ++ done) ahead collector) :
    GoesOn request memory clock deadline past (done ++ ahead) collector := by
  obtain ⟨more, left, rfl, went, stops⟩ := goesOn
  rw [List.append_assoc] at went
  exact ⟨done ++ more, left, (List.append_assoc _ _ _).symm, went, stops⟩

theorem GoesOn.cons {moment : Moment} {ahead : List Moment}
    (goesOn : GoesOn request memory clock deadline (past ++ [moment]) ahead collector) :
    GoesOn request memory clock deadline past (moment :: ahead) collector :=
  goesOn.behind

theorem Went.takeLines (went : Went request memory clock deadline past collector)
    (set : request.deadline = some deadline) (going : collector.truncated = false)
    (before : Nat) (reader : Reader) :
    GoesOn request memory clock deadline past (momentsAfter request before reader)
      (collector.takeLines clock request before reader) := by
  fun_induction Collector.takeLines clock request collector before reader
    generalizing past with
  | case1 collector before reader capped =>
      rw [momentsAfter_capped capped]
      exact .ended (went.tell _ _ _) going
  | case2 =>
      rename_i collector before reader room looked ended
      obtain ⟨ahead, begins⟩ := momentsAfter_room room reader
      rw [begins]
      rcases went.look set going with ⟨_, stayed⟩ | ⟨still, _⟩
      · exact .stopped stayed ended ahead
      · exact absurd (still.symm.trans ended) Bool.false_ne_true
  | case3 =>
      rename_i collector before reader room looked still after found
      rw [momentsAfter_nil (Reader.items_of_none found) room]
      obtain ⟨going, looked⟩ := went.looked set going still
      exact .cons (.ended (looked.tell _ _ _) going)
  | case4 =>
      rename_i collector before reader room looked still after found
      rw [momentsAfter_nil (Reader.items_of_unreadable found) room]
      obtain ⟨going, looked⟩ := went.looked set going still
      exact .cons (.ended ((looked.tell _ _ _).tell _ _ _) going)
  | case5 =>
      rename_i collector before reader room looked still length after found ih
      rw [momentsAfter_cons (Reader.items_of_oversized found) room]
      obtain ⟨going, looked⟩ := went.looked set going still
      exact .cons (.cons (ih (looked.passOver going length _ _ _) going))
  | case6 =>
      rename_i collector before reader room looked still bytes after found ih
      rw [momentsAfter_cons (Reader.items_of_line found) room]
      obtain ⟨going, looked⟩ := went.looked set going still
      have reflects := (looked.reflects going).takeLine bytes
      have inspected := looked.inspect going (looks_takeLine request _ bytes) reflects
      exact .cons (.cons (ih inspected reflects.going))

theorem Went.takeFile (went : Went request memory clock deadline past collector)
    (set : request.deadline = some deadline) (going : collector.truncated = false)
    (file : Option Reader) :
    GoesOn request memory clock deadline past (moments request file)
      (collector.takeFile clock request file) := by
  simp only [Collector.takeFile]
  rcases went.look set going with ⟨ended, stayed⟩ | ⟨still, looked⟩
  · rw [if_pos ended]
    cases file with
    | none => exact .stopped stayed ended []
    | some reader => exact .stopped stayed ended _
  · rw [if_neg (ne_true_of_eq_false still)]
    cases file with
    | none => exact .cons (.ended (looked.tell _ _ _) still)
    | some reader => exact .cons (looked.takeLines set still 0 reader)

/-- A search that a look has ended leaves every further file alone. -/
theorem foldl_takeFile_of_ended (set : request.deadline = some deadline)
    (ended : collector.truncated = true) (clock : Clock) (files : List (Option Reader)) :
    files.foldl (Collector.takeFile clock request) collector = collector := by
  have same : ∀ file, collector.takeFile clock request file = collector := by
    intro file
    simp only [Collector.takeFile, Collector.look, set, ended, ↓reduceIte]
  induction files with
  | nil => rfl
  | cons file files ih => rw [List.foldl_cons, same, ih]

theorem Went.foldl_takeFile (went : Went request memory clock deadline past collector)
    (set : request.deadline = some deadline) (going : collector.truncated = false)
    (files : List (Option Reader)) :
    GoesOn request memory clock deadline past (files.flatMap (moments request))
      (files.foldl (Collector.takeFile clock request) collector) := by
  induction files generalizing past collector with
  | nil => exact .ended went going
  | cons file files ih =>
      obtain ⟨done, left, split, next, stops⟩ := went.takeFile set going file
      rw [List.flatMap_cons, List.foldl_cons, split]
      cases still : (collector.takeFile clock request file).truncated with
      | false =>
          rw [still] at stops
          rw [stops, List.append_nil]
          exact (ih next still).behind
      | true =>
          rw [foldl_takeFile_of_ended set still, List.append_assoc]
          rw [still] at stops
          refine ⟨done, left ++ files.flatMap (moments request), rfl, next, ?_⟩
          rw [still]
          exact (List.head?_append_of_ne_nil left (by rintro rfl; cases stops)).trans stops

/-- A search with a deadline collects from memory first, in which it does not look at the clock. -/
theorem collect_goesOn (set : request.deadline = some deadline) (clock : Clock)
    (memory : List Entry) (files : List (Option Reader)) :
    GoesOn request memory clock deadline [] (files.flatMap (moments request))
      (collect clock request memory files) := by
  have start := (reflects_start request).foldl_offer memory
  have looks := looks_foldl_offer request {} memory
  have begun : Went request memory clock deadline []
      (memory.foldl (Collector.offer request) {}) := by
    refine { collected := ?_, early := nofun, looks := ?_, late := ?_ }
    · rw [going_eq start.going]
      simpa [itemsIn] using start
    · rw [looks, start.going]
      rfl
    · simp [start.going]
  exact begun.foldl_takeFile set start.going files

/-!
### The answer
-/

theorem reference_eq_answerOn (request : Request) (memory : List Entry)
    (files : List (Option Reader)) :
    reference request memory files =
      answerOn request memory (itemsIn (files.flatMap (moments request))) false := by
  rw [itemsIn_moments]
  simp only [reference, answerOn, candidates, List.filterMap_flatMap]

theorem Went.page (went : Went request memory clock deadline past collector) :
    collector.page = answerOn request memory (itemsIn past) collector.truncated := by
  have page := went.collected.page
  simp only [Collector.page, Page.mk.injEq] at page
  obtain ⟨entries, matched, oldest, skipped, _⟩ := page
  rw [Collector.page, entries, matched, oldest, skipped]
  rfl

/-- What was inspected first decides what stands first on the page, and bounds what is counted. -/
theorem answerOn_prefix (request : Request) (memory : List Entry) (first more : List Item)
    (cut whole : Bool) :
    (answerOn request memory first cut).entries <+:
        (answerOn request memory (first ++ more) whole).entries ∧
      (answerOn request memory first cut).matched ≤
          (answerOn request memory (first ++ more) whole).matched ∧
        (answerOn request memory first cut).skipped ≤
          (answerOn request memory (first ++ more) whole).skipped := by
  have seen : memory ++ first.filterMap entryOf? <+:
      memory ++ (first ++ more).filterMap entryOf? := by
    rw [List.filterMap_append, ← List.append_assoc]
    exact List.prefix_append _ _
  have found := seen.filter fun entry => decide (request.Wants entry)
  refine ⟨(found.drop request.offset).take request.limit, found.length_le, ?_⟩
  simp only [answerOn, List.countP_append]
  exact Nat.le_add_right _ _

/-- A search with another deadline, or with none. -/
def Request.within (request : Request) (deadline : Option Nat) : Request :=
  { request with deadline }

/-- What a search with a deadline has come to at its end, where `past` are the moments that it went
through and `left` are those that it left out. -/
structure CutShort (request : Request) (memory : List Entry) (clock : Clock) (deadline : Nat)
    (past left : List Moment) (collector : Collector) : Prop where
  /-- The answer is that of a search which inspects all of the memory and then nothing but `past`. -/
  answer : collector.page = answerOn request memory (itemsIn past) collector.truncated
  early : ∀ reading < looksIn past, clock reading < deadline
  /-- What is left out begins with the look that found the deadline passed, and that was the last. -/
  late : collector.truncated = true →
    left.head? = some .look ∧ deadline ≤ clock (looksIn past) ∧
      collector.looks = looksIn past + 1
  finished : collector.truncated = false → left = [] ∧ collector.looks = looksIn past

/-- An answer that misses at most the end of another one. -/
structure Page.Shortens (short whole : Page) : Prop where
  entries : short.entries <+: whole.entries
  matched : short.matched ≤ whole.matched
  skipped : short.skipped ≤ whole.skipped
  same : short.truncated = false → short = whole

theorem Went.cutShort (went : Went request memory clock deadline past collector)
    (stops : Stops left collector.truncated) :
    CutShort request memory clock deadline past left collector := by
  have looks := went.looks
  refine { answer := went.page, early := went.early, late := fun ended => ?_
           finished := fun going => ?_ }
  · rw [ended, if_pos rfl] at looks
    rw [ended] at stops
    exact ⟨stops, went.late ended, looks⟩
  · rw [going, if_neg Bool.false_ne_true] at looks
    rw [going] at stops
    exact ⟨stops, looks⟩

theorem CutShort.shortens
    (cutShort : CutShort request memory clock deadline past left collector) :
    collector.page.Shortens (answerOn request memory (itemsIn (past ++ left)) false) := by
  rw [itemsIn_append, cutShort.answer]
  obtain ⟨entries, matched, skipped⟩ := answerOn_prefix request memory (itemsIn past)
    (itemsIn left) collector.truncated false
  refine { entries, matched, skipped, same := fun going => ?_ }
  change collector.truncated = false at going
  rw [going, (cutShort.finished going).1]
  simp [itemsIn]

/-- The look that finds the deadline passed is the last one. -/
theorem CutShort.last (cutShort : CutShort request memory clock deadline past left collector)
    {reading : Nat} (made : reading < collector.looks) (passed : deadline ≤ clock reading) :
    collector.truncated = true ∧ reading = looksIn past ∧ collector.looks = reading + 1 := by
  have behind : looksIn past ≤ reading :=
    Nat.le_of_not_lt fun early => Nat.not_lt.mpr passed (cutShort.early reading early)
  cases ended : collector.truncated with
  | false =>
      rw [(cutShort.finished ended).2] at made
      exact absurd made (Nat.not_lt.mpr behind)
  | true =>
      have looks := (cutShort.late ended).2.2
      have same : reading = looksIn past := by omega
      exact ⟨rfl, same, same ▸ looks⟩

/-- A deadline only cuts off the end of a search, whatever the clock shows. The search goes through
the moments of its files up to the first look that finds the deadline passed. Its answer is that of a
search without a deadline that inspects all of the memory and no more items than came before that
look, so the page begins as it would and no count is greater; and where no look found the deadline
passed the answers are the same. After such a look the clock is not looked at again and nothing is
inspected. -/
theorem deadline_cuts_tail (request : Request) (deadline : Nat) (clock : Clock)
    (memory : List Entry) (files : List (Option Reader)) :
    ∃ past left, files.flatMap (moments request) = past ++ left ∧
      itemsIn (past ++ left) = files.flatMap (inspected request) ∧
      (run clock (request.within none) memory files).page =
        answerOn request memory (itemsIn (past ++ left)) false ∧
      CutShort request memory clock deadline past left
        (collect clock (request.within (some deadline)) memory files) ∧
      (run clock (request.within (some deadline)) memory files).page.Shortens
        (run clock (request.within none) memory files).page ∧
      ∀ reading < (collect clock (request.within (some deadline)) memory files).looks,
        deadline ≤ clock reading →
          (run clock (request.within (some deadline)) memory files).page.truncated = true ∧
            reading = looksIn past ∧
              (collect clock (request.within (some deadline)) memory files).looks =
                reading + 1 := by
  have set : (request.within (some deadline)).deadline = some deadline := rfl
  have unhurried : (request.within none).deadline = none := rfl
  obtain ⟨past, left, split, went, stops⟩ := collect_goesOn set clock memory files
  rw [List.nil_append] at went
  obtain ⟨answer, early, late, finished⟩ := went.cutShort stops
  have cutShort : CutShort request memory clock deadline past left
      (collect clock (request.within (some deadline)) memory files) :=
    { answer, early, late, finished }
  have whole := page_run unhurried clock memory files
  rw [reference_eq_answerOn] at whole
  change files.flatMap (moments request) = past ++ left at split
  change _ = answerOn request memory (itemsIn (files.flatMap (moments request))) false at whole
  rw [split] at whole
  refine ⟨past, left, split, ?_, whole, cutShort, ?_, fun reading made passed =>
    cutShort.last made passed⟩
  · rw [← split, itemsIn_moments]
  · rw [whole]
    exact cutShort.shortens

end QueryJournal.Search
