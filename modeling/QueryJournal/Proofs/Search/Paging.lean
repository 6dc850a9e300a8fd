import QueryJournal.Proofs.Search.Reference

namespace QueryJournal

open QueryJournal.Backward (Reader)
open QueryJournal.Time (Instant)

/-!
Searching page after page, where each page asks for the records before the oldest one of the page
before it. A time says less than a place: of the records that share the time at which a page ends,
those that did not fit on that page are on none. All others are on exactly one.
-/

namespace Time.Instant

variable {first second third : Instant}

theorem isBefore_iff : first.isBefore second = true ↔
    first.seconds < second.seconds ∨
      first.seconds = second.seconds ∧ first.nanos < second.nanos := by
  simp [isBefore]

theorem not_isBefore_self (time : Instant) : time.isBefore time = false := by
  rw [Bool.eq_false_iff, ne_eq, isBefore_iff]
  omega

theorem isBefore_trans (earlier : first.isBefore second = true)
    (later : second.isBefore third = true) : first.isBefore third = true := by
  rw [isBefore_iff] at *
  omega

theorem isBefore_of_not_isBefore (least : first.isBefore second = false)
    (later : first.isBefore third = true) : second.isBefore third = true := by
  rw [Bool.eq_false_iff, ne_eq, isBefore_iff] at least
  rw [isBefore_iff] at later ⊢
  omega

/-- Of two instants one is before the other, unless they are the same. -/
theorem eq_of_not_isBefore (left : first.isBefore second = false)
    (right : second.isBefore first = false) : first = second := by
  rw [Bool.eq_false_iff, ne_eq, isBefore_iff] at left right
  obtain ⟨seconds, nanos, _, _, _⟩ := first
  obtain ⟨otherSeconds, otherNanos, _, _, _⟩ := second
  simp only [mk.injEq] at left right ⊢
  omega

end Time.Instant

namespace Search

/-- No record is older than one that stands behind it. -/
def NewestFirst (entries : List Entry) : Prop :=
  entries.Pairwise fun front behind => front.time.isBefore behind.time = false

/-- All records that a search finds, whatever page it asks for. -/
def allMatches (request : Request) (memory : List Entry) (files : List (Option Reader)) :
    List Entry :=
  kept request (candidates request memory files)

/-- Searching on from page to page: each search asks for what lies before the oldest record of the
last page, until a page is empty. -/
inductive Paged (clock : Clock) (memory : List Entry) (files : List (Option Reader)) :
    Request → List Page → Prop where
  | ended {request : Request} (empty : (run clock request memory files).page.entries = []) :
      Paged clock memory files request []
  | turned {request : Request} {time : Instant} {pages : List Page}
      (oldest : (run clock request memory files).page.oldest = some time)
      (later : Paged clock memory files { request with olderThan := some time } pages) :
      Paged clock memory files request ((run clock request memory files).page :: pages)

/-- How a list of records, newest first, falls into pages: each page holds as many as there is room
for, the records that have the time of its last one and did not fit are passed over, and the next
page begins with the first record before that time. -/
inductive Turns (limit : Nat) : List Entry → List (List Entry) → Prop where
  | ended : Turns limit [] []
  | turned {page passed later : List Entry} {pages : List (List Entry)} {last : Entry}
      (ends : page.getLast? = some last) (fits : page.length ≤ limit)
      (full : page.length = limit ∨ passed ++ later = [])
      (alike : ∀ entry ∈ passed, entry.time = last.time)
      (before : ∀ entry ∈ later, entry.time.isBefore last.time = true)
      (rest : Turns limit later pages) :
      Turns limit (page ++ (passed ++ later)) (page :: pages)

instance (entries : List Entry) : Decidable (NewestFirst entries) :=
  inferInstanceAs (Decidable (entries.Pairwise _))

variable {request : Request} {memory entries front behind : List Entry}
  {files : List (Option Reader)} {clock : Clock} {pages others : List Page} {last : Entry}
  {limit : Nat} {lists : List (List Entry)}

/-!
### What falls between pages
-/

theorem Turns.sublist (turns : Turns limit entries lists) : lists.flatten.Sublist entries := by
  induction turns with
  | ended => exact List.Sublist.refl []
  | turned _ _ _ _ _ _ ih =>
      rw [List.flatten_cons]
      exact (List.Sublist.refl _).append (ih.trans (List.sublist_append_right _ _))

/-- A record that is on no page has the time of the last record of some page. -/
theorem Turns.mem_or_alike (turns : Turns limit entries lists) {entry : Entry}
    (member : entry ∈ entries) :
    entry ∈ lists.flatten ∨
      ∃ page ∈ lists, page.getLast?.map Entry.time = some entry.time := by
  induction turns with
  | ended => contradiction
  | @turned page passed later pages last ends _ _ alike _ _ ih =>
      rw [List.flatten_cons, List.mem_append]
      rw [List.mem_append, List.mem_append] at member
      rcases member with here | left | further
      · exact .inl (.inl here)
      · refine .inr ⟨page, List.mem_cons_self, ?_⟩
        rw [ends, Option.map_some, alike entry left]
      · rcases ih further with found | ⟨other, listed, same⟩
        · exact .inl (.inr found)
        · exact .inr ⟨other, List.mem_cons_of_mem page listed, same⟩

/-- Nothing is passed over where no two records share a time. -/
theorem Turns.flatten_eq (turns : Turns limit entries lists)
    (apart : entries.Pairwise fun front behind => front.time ≠ behind.time) :
    lists.flatten = entries := by
  induction turns with
  | ended => rfl
  | @turned page passed later pages last ends _ _ alike _ _ ih =>
      rw [List.pairwise_append, List.pairwise_append] at apart
      obtain ⟨_, ⟨_, distinct, _⟩, across⟩ := apart
      have none : passed = [] := by
        refine List.eq_nil_iff_forall_not_mem.mpr fun entry member => ?_
        have different := across last (List.mem_of_getLast? ends) entry
          (List.mem_append_left later member)
        exact different (alike entry member).symm
      rw [List.flatten_cons, ih distinct, none, List.nil_append]

/-!
### One page
-/

theorem newestFirst_kept (sorted : NewestFirst entries) (request : Request) :
    NewestFirst (kept request entries) :=
  sorted.sublist List.filter_sublist

theorem NewestFirst.not_before_last (sorted : NewestFirst front)
    (ends : front.getLast? = some last) :
    ∀ entry ∈ front, entry.time.isBefore last.time = false := by
  obtain ⟨others, rfl⟩ := List.getLast?_eq_some_iff.mp ends
  intro entry member
  rcases List.mem_append.mp member with earlier | same
  · exact (List.pairwise_append.mp sorted).2.2 entry earlier last (List.mem_singleton_self last)
  · rw [List.mem_singleton.mp same]
    exact Instant.not_isBefore_self last.time

/-- Behind a record there are those of its time, and then those before it. -/
theorem NewestFirst.split (sorted : NewestFirst (front ++ behind))
    (ends : front.getLast? = some last) :
    ∃ passed, behind = passed ++ behind.filter (fun entry => entry.time.isBefore last.time) ∧
      ∀ entry ∈ passed, entry.time = last.time := by
  rw [NewestFirst, List.pairwise_append] at sorted
  obtain ⟨_, ordered, across⟩ := sorted
  have within : ∀ entry ∈ behind, last.time.isBefore entry.time = false :=
    across last (List.mem_of_getLast? ends)
  clear across ends
  induction behind with
  | nil => exact ⟨[], rfl, List.forall_mem_nil _⟩
  | cons entry behind ih =>
      obtain ⟨first, ordered⟩ := List.pairwise_cons.mp ordered
      cases older : entry.time.isBefore last.time with
      | true =>
          refine ⟨[], ?_, List.forall_mem_nil _⟩
          have all : ∀ other ∈ entry :: behind, other.time.isBefore last.time = true := by
            intro other member
            rcases List.mem_cons.mp member with rfl | further
            · exact older
            · exact Instant.isBefore_of_not_isBefore (first other further) older
          rw [List.filter_eq_self.mpr all, List.nil_append]
      | false =>
          obtain ⟨passed, split, alike⟩ := ih ordered fun other member =>
            within other (List.mem_cons_of_mem entry member)
          refine ⟨entry :: passed, ?_, ?_⟩
          · rw [List.filter_cons_of_neg (by simp [older]), List.cons_append, ← split]
          · intro other member
            rcases List.mem_cons.mp member with rfl | further
            · exact Instant.eq_of_not_isBefore older (within other List.mem_cons_self)
            · exact alike other further

theorem oldest_run (clock : Clock) (request : Request) (memory : List Entry)
    (files : List (Option Reader)) :
    (run clock request memory files).page.oldest =
      (run clock request memory files).page.entries.getLast?.map Entry.time := by
  simp only [run, Collector.page, List.getLast?_reverse]

theorem entries_run (unhurried : request.deadline = none) (first : request.offset = 0)
    (clock : Clock) (memory : List Entry) (files : List (Option Reader)) :
    (run clock request memory files).page.entries =
      (allMatches request memory files).take request.limit := by
  rw [page_run unhurried, reference, pageOf, first, List.drop_zero, allMatches]

/-- Asking for what lies before a record that was found leaves the records before it. -/
theorem kept_olderThan {record : Entry} (found : record ∈ kept request entries) :
    kept { request with olderThan := some record.time } entries =
      (kept request entries).filter fun entry => entry.time.isBefore record.time := by
  have wanted : request.Wants record := by simpa using (List.mem_filter.mp found).2
  rw [kept, kept, List.filter_filter]
  refine List.filter_congr fun entry _ => ?_
  rw [← Bool.decide_coe (entry.time.isBefore record.time), ← Bool.decide_and, decide_eq_decide]
  simp only [Request.Wants, Option.mem_some]
  constructor
  · rintro ⟨older, criteria⟩
    have before := older record.time rfl
    exact ⟨before, fun time bound => Instant.isBefore_trans before (wanted.1 time bound), criteria⟩
  · rintro ⟨before, _, criteria⟩
    exact ⟨fun time same => same ▸ before, criteria⟩

/-- Of the records that were found, only those behind a page lie before its last one. -/
theorem kept_behind_page (sorted : NewestFirst (kept request entries))
    (ends : ((kept request entries).take limit).getLast? = some last) :
    kept { request with olderThan := some last.time } entries =
      ((kept request entries).drop limit).filter fun entry => entry.time.isBefore last.time := by
  have member : last ∈ kept request entries := List.mem_of_mem_take (List.mem_of_getLast? ends)
  have ordered : NewestFirst ((kept request entries).take limit) :=
    sorted.sublist (List.take_sublist limit _)
  have none : ((kept request entries).take limit).filter
      (fun entry => entry.time.isBefore last.time) = [] := by
    rw [List.filter_eq_nil_iff]
    intro entry within
    simp [ordered.not_before_last ends entry within]
  have older := kept_olderThan member
  rw [← List.take_append_drop limit (kept request entries), List.filter_append, none,
    List.nil_append] at older
  exact older

/-!
### Page after page
-/

theorem Paged.unique (paged : Paged clock memory files request pages)
    (also : Paged clock memory files request others) : others = pages := by
  induction paged generalizing others with
  | ended empty =>
      cases also with
      | ended => rfl
      | turned oldest _ =>
          rw [oldest_run, empty] at oldest
          contradiction
  | turned oldest _ ih =>
      cases also with
      | ended empty =>
          rw [oldest_run, empty] at oldest
          contradiction
      | turned same later =>
          rw [oldest, Option.some.injEq] at same
          subst same
          rw [ih later]

theorem Paged.oldest (paged : Paged clock memory files request pages) :
    ∀ page ∈ pages, page.oldest = page.entries.getLast?.map Entry.time := by
  induction paged with
  | ended => exact List.forall_mem_nil _
  | turned _ _ ih => exact List.forall_mem_cons.mpr ⟨oldest_run _ _ _ _, ih⟩

theorem exists_paged (clock : Clock) (unhurried : request.deadline = none)
    (first : request.offset = 0) (room : 0 < request.limit)
    (sorted : NewestFirst (allMatches request memory files)) :
    ∃ pages, Paged clock memory files request pages ∧
      Turns request.limit (allMatches request memory files) (pages.map Page.entries) := by
  induction measured : (allMatches request memory files).length
    using Nat.strongRecOn generalizing request with
  | _ length ih =>
      have page := entries_run unhurried first clock memory files
      have oldest := oldest_run clock request memory files
      rw [page] at oldest
      cases ends : ((allMatches request memory files).take request.limit).getLast? with
      | none =>
          rw [List.getLast?_eq_none_iff] at ends
          have none : allMatches request memory files = [] :=
            (List.take_eq_nil_iff.mp ends).resolve_left (Nat.ne_of_gt room)
          rw [none]
          exact ⟨[], .ended (page.trans ends), .ended⟩
      | some last =>
          rw [ends, Option.map_some] at oldest
          have rest : allMatches { request with olderThan := some last.time } memory files =
              ((allMatches request memory files).drop request.limit).filter
                fun entry => entry.time.isBefore last.time := kept_behind_page sorted ends
          have shorter : (allMatches { request with olderThan := some last.time } memory
              files).length < length := by
            have most := List.length_filter_le (fun entry => entry.time.isBefore last.time)
              ((allMatches request memory files).drop request.limit)
            have some := List.length_pos_of_mem (List.mem_of_mem_take (List.mem_of_getLast? ends))
            rw [← rest, List.length_drop] at most
            omega
          have whole := List.take_append_drop request.limit (allMatches request memory files)
          have behind : NewestFirst
              (allMatches { request with olderThan := some last.time } memory files) := by
            rw [rest]
            exact sorted.sublist (List.filter_sublist.trans (List.drop_sublist _ _))
          obtain ⟨pages, paged, turns⟩ := @ih _ shorter
            { request with olderThan := some last.time } unhurried first room behind rfl
          rw [← whole] at sorted
          obtain ⟨passed, split, alike⟩ := sorted.split ends
          refine ⟨_, .turned oldest paged, ?_⟩
          rw [← rest] at split
          rw [← whole, split, List.map_cons, page]
          refine .turned ends (List.length_take_le _ _) ?_ alike ?_ turns
          · rw [← split]
            by_cases reached : request.limit ≤ (allMatches request memory files).length
            · exact .inl (List.length_take_of_le reached)
            · exact .inr (List.drop_of_length_le (Nat.le_of_not_le reached))
          · rw [rest]
            exact fun entry member => (List.mem_filter.mp member).2

/-- Searching on from page to page comes to an end, in one way only. The pages together are the
answer to one search without a limit, every record once and in order, but for records that have the
time of the last record of a page and did not fit on it. So nothing is missing where no two records
that are found share a time. -/
theorem pages_cover_all_but_alike (unhurried : request.deadline = none)
    (first : request.offset = 0) (room : 0 < request.limit) (clock : Clock) (memory : List Entry)
    (files : List (Option Reader)) (sorted : NewestFirst (candidates request memory files)) :
    (∀ limit, (allMatches request memory files).length ≤ limit →
      (run clock { request with limit } memory files).page.entries =
        allMatches request memory files) ∧
    ∃ pages,
      Paged clock memory files request pages ∧
      (∀ others, Paged clock memory files request others → others = pages) ∧
      Turns request.limit (allMatches request memory files) (pages.map Page.entries) ∧
      (pages.flatMap Page.entries).Sublist (allMatches request memory files) ∧
      (∀ entry ∈ allMatches request memory files,
        entry ∈ pages.flatMap Page.entries ∨ ∃ page ∈ pages, page.oldest = some entry.time) ∧
      ((allMatches request memory files).Pairwise (fun front behind => front.time ≠ behind.time) →
        pages.flatMap Page.entries = allMatches request memory files) := by
  obtain ⟨pages, paged, turns⟩ := exists_paged clock unhurried first room
    (newestFirst_kept sorted request)
  refine ⟨fun limit enough => ?_, pages, paged, fun others also => paged.unique also, turns,
    turns.sublist, fun entry member => ?_, turns.flatten_eq⟩
  · have answer : (run clock { request with limit } memory files).page.entries =
        (allMatches request memory files).take limit := by
      have still : ({ request with limit } : Request).deadline = none := unhurried
      exact entries_run still first clock memory files
    rw [answer, List.take_of_length_le enough]
  · refine (turns.mem_or_alike member).imp_right ?_
    rintro ⟨_, listed, same⟩
    obtain ⟨page, present, rfl⟩ := List.mem_map.mp listed
    exact ⟨page, present, (paged.oldest page present).trans same⟩

def secondAfterEpoch : Instant :=
  { seconds := 1, nanos := 0, first_le := by decide, le_last := by decide, nanos_lt := by decide }

/-- Two records, the newer one in front. -/
def twoTimes : List Entry :=
  [{ (default : Entry) with time := secondAfterEpoch }, default]

theorem pages_cover_two_times :
    ∃ pages, Paged (fun _ => 0) twoTimes [] { limit := 1, scanCap := 0 } pages ∧
      pages.flatMap Page.entries = twoTimes := by
  have unhurried : ({ limit := 1, scanCap := 0 } : Request).deadline = none := rfl
  obtain ⟨_, pages, paged, _, _, _, _, whole⟩ :=
    pages_cover_all_but_alike unhurried rfl Nat.one_pos (fun _ => 0) twoTimes [] (by decide)
  have found : allMatches { limit := 1, scanCap := 0 } twoTimes [] = twoTimes := by decide
  rw [found] at whole
  exact ⟨pages, paged, whole (by decide)⟩

/-- Two records of the same time. -/
def oneTime : List Entry :=
  [{ (default : Entry) with host := "b" }, default]

/-- Of two records that share a time the second one is on no page of one record each, although one
search finds both. -/
theorem paging_loses_alike :
    NewestFirst (candidates { limit := 1, scanCap := 0 } oneTime []) ∧
      (run (fun _ => 0) { limit := 2, scanCap := 0 } oneTime []).page.entries = oneTime ∧
      ¬∃ pages, Paged (fun _ => 0) oneTime [] { limit := 1, scanCap := 0 } pages ∧
        pages.flatMap Page.entries = oneTime := by
  refine ⟨by decide, by decide, ?_⟩
  rintro ⟨pages, paged, all⟩
  have oldest : (run (fun _ => 0) { limit := 1, scanCap := 0 } oneTime []).page.oldest =
      some default := by decide
  have only : Paged (fun _ => 0) oneTime [] { limit := 1, scanCap := 0 } _ :=
    .turned oldest (.ended (by decide))
  rw [only.unique paged] at all
  exact absurd all (by decide)

end Search

end QueryJournal
