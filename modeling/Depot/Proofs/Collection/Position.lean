import Depot.Proofs.Collection.Append

/-!
# Where a collection is

A collection says in two ways whether there is something before what it shows: by the number of the page, and by
offering a page before it.  With a stack, both are read off the stack.  Without one, both are counted from the
raw records that are behind it and not shown: they make a page each, as many as a page can have, and a page
before this one if there are any.

So the two agree, except where pages have no limit and no stack is kept (`Config.Unnumbered`), where every page
has the number zero (`coherent_iff`).  A limit that does not fit into the count is negative there; with such a limit they
agree as long as no more is shown than is behind, and what is behind and not shown comes to less than the limit
lacks to 64 bits (`Counts`).  And the first page has the number zero and none before it, as far as nothing was
`passedOver` on the way to its end, or pages are not appended (`firstPage_commit`).
-/

namespace Depot.Collection

open Dialogue (Environment)
open Listing (Serves)

variable {σ : Type} {env : Environment σ} {listing : List Record} {causes : HttpError → Prop}
  {config : Config} {c : Collection} {patience : Nat} {params : Params} {plan : Plan} {call : Call}
  {calls : List Call} {t : σ}

/-! ### Counting pages -/

/-- A number rounded up is positive exactly if the number is. -/
theorem roundedUp_pos_iff {limit : Int} (limited : 0 < limit) (before : Int) :
    0 < before / limit + (if before % limit = 0 then 0 else 1) ↔ 0 < before := by
  have one : 1 ≤ before / limit ↔ 1 * limit ≤ before := Int.le_ediv_iff_mul_le limited
  have zero : 0 ≤ before / limit ↔ 0 * limit ≤ before := Int.le_ediv_iff_mul_le limited
  rw [Int.one_mul] at one
  rw [Int.zero_mul] at zero
  by_cases whole : before % limit = 0
  · -- a number that is left over by nothing is zero, or no smaller than the limit
    have small (positive : 0 < before) (below : before < limit) : before = 0 :=
      (Int.emod_eq_of_lt (Int.le_of_lt positive) below).symm.trans whole
    rw [if_pos whole]
    omega
  · have notZero : before ≠ 0 := by
      rintro rfl
      exact whole (Int.zero_emod limit)
    rw [if_neg whole]
    omega

/-- By a negative divisor this is so only of what is smaller than its size. -/
theorem roundedUp_of_negative {size before : Int} (least : 0 ≤ before) (small : before < size) :
    before / -size + (if before % -size = 0 then 0 else 1) = if before = 0 then 0 else 1 := by
  rw [Int.ediv_neg, Int.ediv_eq_zero_of_lt least small, Int.emod_neg, Int.emod_eq_of_lt least small, Int.neg_zero,
    Int.zero_add]

/-! ### Whether the two agree -/

/-- The number of the page and the offer of a page before it agree. -/
def Coherent (c : Collection) : Prop := c.hasPreviousPage = true ↔ 0 < c.pageNum

/-- Pages have no limit, and no stack is kept. -/
def Config.Unnumbered (config : Config) : Prop := config.pageLimit = 0 ∧ config.tracksPages = false

/-- Pages can be counted: by the stack, with a limit that fits into the count, or with one that does not, as long as
what is behind and not shown is small enough for it. -/
def Counts (c : Collection) : Prop :=
  c.config.tracksPages = true ∨ c.config.pageLimit < limit63 ∨
    c.records.length ≤ c.offset ∧ c.offset + c.config.pageLimit < limit64 + c.records.length

theorem hasPreviousPage_iff (untracked : c.config.tracksPages = false) :
    c.hasPreviousPage = true ↔ c.records.length < c.offset := by
  rw [hasPreviousPage, untracked, if_neg Bool.false_ne_true, decide_eq_true_iff]

theorem pageNum_of_untracked (untracked : c.config.tracksPages = false) (limited : 0 < c.config.pageLimit) :
    let before : Int := c.offset - c.records.length
    c.pageNum = before / c.config.divisor before + if before % c.config.divisor before = 0 then 0 else 1 := by
  rw [pageNum, untracked, if_neg Bool.false_ne_true, if_neg (Nat.ne_of_gt limited)]

/-- A page that is counted has a positive number exactly if something is behind it. -/
theorem Counts.pageNum_pos_iff (counts : c.Counts) (untracked : c.config.tracksPages = false)
    (limited : 0 < c.config.pageLimit) : 0 < c.pageNum ↔ c.records.length < c.offset := by
  rw [pageNum_of_untracked untracked limited]
  have ahead : (0 : Int) < c.offset - c.records.length ↔ c.records.length < c.offset := by omega
  have large (count : Int) : c.config.divisor count = c.config.pageLimit ∨
      c.config.divisor count = -(limit64 - c.config.pageLimit) ∧ limit63 ≤ c.config.pageLimit := by
    rw [Config.divisor]
    split
    · next both => exact .inr ⟨by omega, both.1⟩
    · exact .inl rfl
  rw [← ahead]
  rcases large (c.offset - c.records.length) with fits | ⟨negative, large⟩
  · rw [fits]
    exact roundedUp_pos_iff (Int.natCast_pos.mpr limited) _
  · obtain ⟨shown, small⟩ : c.records.length ≤ c.offset ∧
        c.offset + c.config.pageLimit < limit64 + c.records.length := by
      rcases counts with tracks | fits | inside
      · rw [untracked] at tracks
        cases tracks
      · exact absurd large (Nat.not_le.mpr fits)
      · exact inside
    rw [negative, roundedUp_of_negative (by omega) (by omega)]
    split <;> omega

/-- By the stack, a page is offered before this one if its number says so. -/
theorem coherent_of_tracked (tracks : c.config.tracksPages = true) : c.Coherent := by
  rw [Coherent, hasPreviousPage, if_pos tracks, decide_eq_true_iff]

/-- Without a limit and a stack every page has the number zero. -/
theorem Config.Unnumbered.pageNum (unnumbered : c.config.Unnumbered) : c.pageNum = 0 := by
  rw [Collection.pageNum, unnumbered.2, if_neg Bool.false_ne_true, if_pos unnumbered.1]

/-- **The two agree**, unless pages are not numbered and one is offered before this one. -/
theorem coherent_iff (counts : c.Counts) :
    c.Coherent ↔ ¬ (c.config.Unnumbered ∧ c.records.length < c.offset) := by
  by_cases tracks : c.config.tracksPages = true
  · refine ⟨fun _ both => ?_, fun _ => coherent_of_tracked tracks⟩
    rw [both.1.2] at tracks
    cases tracks
  have untracked : c.config.tracksPages = false := Bool.eq_false_iff.mpr tracks
  rw [Coherent, hasPreviousPage_iff untracked]
  rcases Nat.eq_zero_or_pos c.config.pageLimit with everything | limited
  · have unnumbered : c.config.Unnumbered := ⟨everything, untracked⟩
    rw [unnumbered.pageNum]
    constructor
    · intro agree both
      exact Int.lt_irrefl 0 (agree.mp both.2)
    · intro none_before
      refine ⟨fun before => absurd ⟨unnumbered, before⟩ none_before, ?_⟩
      exact fun positive => absurd positive (Int.lt_irrefl 0)
  · have numbered : ¬ c.config.Unnumbered := fun unnumbered => Nat.ne_of_gt limited unnumbered.1
    exact ⟨fun _ both => numbered both.1, fun _ => (counts.pageNum_pos_iff untracked limited).symm⟩

/-! ### The first page -/

/-- How many of the raw records in front of this offset are not shown. -/
def passedOver (config : Config) (listing : List Record) (offset : Nat) : Nat :=
  ((listing.take offset).filter fun r => !config.accepts r).length

/-- Without a filter no record is passed over. -/
theorem passedOver_of_unfiltered (unfiltered : config.filter = none) (offset : Nat) :
    passedOver config listing offset = 0 := by
  rw [passedOver, List.length_eq_zero_iff, List.filter_eq_nil_iff]
  intro r _
  rw [accepts_of_unfiltered unfiltered r]
  exact Bool.false_ne_true

/-- **The first page** has the records in front of its end that match, whatever its limit is. -/
theorem first_page (accepts : Record → Bool) (limit : Nat) (listing : List Record) :
    let first := pageFrom accepts limit listing 0
    first.offset ≤ listing.length ∧ first.records = (listing.take first.offset).filter accepts := by
  rcases Nat.eq_zero_or_pos limit with rfl | limited
  · simp [pageFrom]
  · refine ⟨(behindMatch_pageFrom limited (Nat.zero_le _)).inside, ?_⟩
    rw [← filter_take_append_pageFrom limited, List.take_zero, List.filter_nil, List.nil_append]

/-- It ends behind what it shows and what was passed over. -/
theorem offset_first (config : Config) (listing : List Record) :
    let first := pageFrom config.accepts config.pageLimit listing 0
    first.offset = first.records.length + passedOver config listing first.offset := by
  intro first
  obtain ⟨inside, records⟩ : first.offset ≤ listing.length ∧
      first.records = (listing.take first.offset).filter config.accepts := first_page _ _ _
  have both := List.length_eq_countP_add_countP config.accepts (l := listing.take first.offset)
  rw [List.length_take, Nat.min_eq_left inside, List.countP_eq_length_filter, List.countP_eq_length_filter] at both
  rw [records, passedOver]
  simpa using both

/-- A collection that keeps a stack with one offset has nothing before it. -/
theorem position_of_one_start (tracks : c.config.tracksPages = true) (one : c.stack.depth = 1) :
    c.pageNum = 0 ∧ c.hasPreviousPage = false := by
  have number : c.pageNum = 0 := by
    rw [pageNum, if_pos tracks, one]
    rfl
  refine ⟨number, Bool.eq_false_iff.mpr fun offered => ?_⟩
  have positive : 0 < c.pageNum := (coherent_of_tracked tracks).mp offered
  omega

/-- A collection that keeps no stack and shows all that is behind it has nothing before it. -/
theorem position_of_all_shown (untracked : c.config.tracksPages = false) (all : c.offset = c.records.length) :
    c.pageNum = 0 ∧ c.hasPreviousPage = false := by
  have before : (c.offset : Int) - c.records.length = 0 := by omega
  refine ⟨?_, ?_⟩
  · rw [pageNum, untracked, if_neg Bool.false_ne_true]
    simp [before]
  · rw [Bool.eq_false_iff, ne_eq, hasPreviousPage_iff untracked]
    omega

/-- **The first page is where it should be**, unless pages are appended and some records were passed over. -/
theorem firstPage_commit (first : plan.reset = true) (start : plan.start = 0) (empty : plan.stack = .empty) :
    let shown := c.commit plan (pageFrom c.config.accepts c.config.pageLimit listing plan.start)
    c.config.append = false ∨ passedOver c.config listing shown.offset = 0 →
      shown.pageNum = 0 ∧ shown.hasPreviousPage = false := by
  intro shown plain
  let page := pageFrom c.config.accepts c.config.pageLimit listing 0
  have shown_eq : shown = c.commit plan page := by
    simp only [shown, start]
    rfl
  rw [shown_eq] at plain ⊢
  by_cases tracks : c.config.tracksPages = true
  · -- the stack has the first page alone
    have stack : (c.commit plan page).stack = OffsetStack.empty.push plan.start := by
      show (if c.config.tracksPages then plan.stack.push plan.start else _) = _
      rw [if_pos tracks, empty]
    exact position_of_one_start tracks (congrArg OffsetStack.depth stack)
  · have untracked : c.config.tracksPages = false := Bool.eq_false_iff.mpr tracks
    have none_passed : passedOver c.config listing (c.commit plan page).offset = 0 := by
      rcases plain with single | none_passed
      · -- pages that are not appended and have no stack have no filter
        rw [Config.tracksPages, single, Bool.not_false, Bool.and_true, Option.not_isSome_iff_eq_none] at tracks
        exact passedOver_of_unfiltered tracks _
      · exact none_passed
    refine position_of_all_shown untracked ?_
    have records : (c.commit plan page).records = page.records := by
      rw [records_commit, carriedOver_reset first, List.nil_append]
    have offset : page.offset = page.records.length + passedOver c.config listing page.offset :=
      offset_first c.config listing
    rw [records]
    exact offset.trans (congrArg (page.records.length + ·) none_passed)

/-! ### All records on one page -/

/-- **Without a limit and a filter**, a single page has everything, or nothing in front of the listing or behind
it; and where pages are appended, no less is shown than what is behind. -/
structure Everything (config : Config) (listing : List Record) (c : Collection) : Prop where
  configured : c.config = config
  inside : c.offset ≤ listing.length
  single : config.append = false → c.records = [] ∧ (c.offset = 0 ∨ c.offset = listing.length) ∨
    c.records.length = listing.length ∧ c.offset = listing.length
  appended : config.append = true → c.offset ≤ c.records.length

theorem everything_new : Everything config listing (new config) where
  configured := rfl
  inside := Nat.zero_le _
  single := fun _ => .inl ⟨rfl, .inl rfl⟩
  appended := fun _ => Nat.le_refl 0

/-- Where a call begins that keeps no stack: at the beginning, at the present offset, or in front of what is
shown. -/
theorem start_of_untracked (untracked : c.config.tracksPages = false) (planned : call.plan? c = some plan) :
    plan.start = 0 ∨ plan.reset = false ∧
      (plan.start = c.offset ∨ plan.start = c.offset - (c.records.length + c.config.pageLimit)) := by
  cases call with
  | fetch patience params anew =>
    obtain rfl := Option.some.inj planned
    cases anew with
    | true => exact .inl rfl
    | false => exact .inr ⟨rfl, .inl rfl⟩
  | next patience params =>
    obtain rfl := Option.some.inj planned
    exact .inr ⟨rfl, .inl rfl⟩
  | previous patience params =>
    obtain rfl := Option.some.inj planned
    show (c.planPrevious params).start = 0 ∨ _
    rw [planPrevious, untracked, if_neg Bool.false_ne_true]
    exact .inr ⟨rfl, .inr rfl⟩
  | reset => cases planned

section Everything

variable (everything : config.pageLimit = 0) (unfiltered : config.filter = none)

include everything unfiltered

theorem Config.unnumbered : config.Unnumbered := by
  refine ⟨everything, ?_⟩
  rw [Config.tracksPages, unfiltered]
  rfl

theorem pageFrom_everything (start : Nat) : pageFrom config.accepts config.pageLimit listing start =
    ⟨listing.drop start, start + (listing.drop start).length, false⟩ := by
  have all : (listing.drop start).filter config.accepts = listing.drop start :=
    List.filter_eq_self.mpr fun r _ => accepts_of_unfiltered unfiltered r
  rw [pageFrom, everything]
  simp only [if_pos, all]

/-- **A page that is committed** has what is left of the listing. -/
theorem Everything.commit (shows : Everything config listing c) (planned : call.plan? c = some plan) :
    plan.start ≤ listing.length ∧ Everything config listing
      (c.commit plan (pageFrom c.config.accepts c.config.pageLimit listing plan.start)) := by
  obtain ⟨rfl, inside, single, appended⟩ := shows
  have begins := start_of_untracked (Config.unnumbered everything unfiltered).2 planned
  rw [everything, Nat.add_zero] at begins
  have within : plan.start ≤ listing.length := by omega
  let page := pageFrom c.config.accepts c.config.pageLimit listing plan.start
  have page_eq : page = ⟨listing.drop plan.start, plan.start + (listing.drop plan.start).length, false⟩ :=
    pageFrom_everything everything unfiltered plan.start
  have left : page.records.length = listing.length - plan.start := by
    rw [page_eq, List.length_drop]
  have ends : page.offset = listing.length := by
    rw [page_eq]
    show plan.start + (listing.drop plan.start).length = _
    rw [List.length_drop, Nat.add_sub_cancel' within]
  have shown : (c.commit plan page).records.length = (c.carriedOver plan).length + page.records.length := by
    rw [records_commit, List.length_append]
  refine ⟨within, rfl, Nat.le_of_eq ends, ?_, ?_⟩
  · intro alone
    have carried : c.carriedOver plan = [] := by
      rw [carriedOver, alone, Bool.false_and, if_neg Bool.false_ne_true]
    rw [carried, List.length_nil, Nat.zero_add, left] at shown
    have extreme : plan.start = 0 ∨ plan.start = listing.length := by
      rcases single alone with ⟨empty, offset⟩ | ⟨all, offset⟩
      · rw [empty, List.length_nil] at begins
        omega
      · omega
    rcases extreme with front | behind
    · right
      rw [front, Nat.sub_zero] at shown
      exact ⟨shown, ends⟩
    · left
      rw [behind, Nat.sub_self, List.length_eq_zero_iff] at shown
      exact ⟨shown, .inr ends⟩
  · intro appends
    have before := appended appends
    show page.offset ≤ (c.commit plan page).records.length
    rw [shown, left, ends]
    rcases begins with start | ⟨further, start⟩
    · omega
    · rw [carriedOver_append appends further]
      omega

variable (serves : Serves env listing config.batchLimit causes)

include serves

theorem Everything.perform (shows : Everything config listing c) (calls : List Call) (t : σ) :
    Everything config listing ((perform calls c).run env t).value := by
  refine perform_keeps env ?_ shows calls t
  intro call c t shows committed
  rcases planned : call.plan? c with - | plan
  · obtain rfl := Call.eq_reset planned
    show Everything config listing (new c.config)
    rw [shows.configured]
    exact everything_new
  · obtain ⟨within, next⟩ := shows.commit everything unfiltered planned
    rw [tried_commit (shows.configured ▸ serves) planned within committed]
    exact next

end Everything

/-- A page is offered before this one exactly if an empty page behind the listing is shown alone. -/
theorem Everything.behind_iff (shows : Everything config listing c) :
    c.records.length < c.offset ↔ config.append = false ∧ c.records = [] ∧ 0 < c.offset := by
  constructor
  · intro behind
    rcases appends : config.append with - | -
    · rcases shows.single appends with ⟨empty, -⟩ | ⟨all, offset⟩
      · exact ⟨rfl, empty, Nat.zero_lt_of_lt behind⟩
      · omega
    · exact absurd (shows.appended appends) (Nat.not_le.mpr behind)
  · rintro ⟨-, empty, positive⟩
    rwa [empty, List.length_nil]

/-! ### Everywhere -/

/-- **Where a collection is**, over a fixed listing and after any calls.  A first page has the number zero and none
before it, if pages are not appended or nothing was passed over on the way to its end.  Where its
pages can be counted (`Counts`), the number of the page and the offer of a page before it agree, unless pages have
no limit, no stack is kept, and less is shown than what is behind; the number is zero then.  Without a filter that is so exactly if an empty page behind the listing is shown alone. -/
theorem position_is_coherent (serves : Serves env listing config.batchLimit causes) (calls : List Call) (t : σ) :
    let c := ((perform calls (new config)).run env t).value
    (∀ patience params u, let first := (c.fetch patience params true).run env u
      first.value.1 = .committed →
      config.append = false ∨ passedOver config listing first.value.2.offset = 0 →
        first.value.2.pageNum = 0 ∧ first.value.2.hasPreviousPage = false) ∧
    (c.Counts → (c.Coherent ↔ ¬ (config.Unnumbered ∧ c.records.length < c.offset))) ∧
    (config.Unnumbered → c.pageNum = 0) ∧
    (config.pageLimit = 0 → config.filter = none →
      (c.records.length < c.offset ↔ config.append = false ∧ c.records = [] ∧ 0 < c.offset)) := by
  intro c
  have configured : c.config = config := perform_configured env calls (new config) t
  refine ⟨?_, ?_, ?_, ?_⟩
  · intro patience params u first committed
    have planned : (Call.fetch patience params true).plan? c = some (c.planFetch params true) := rfl
    have shown : first.value.2 = c.commit (c.planFetch params true) (pageFrom c.config.accepts
        c.config.pageLimit listing (c.planFetch params true).start) :=
      tried_commit (configured ▸ serves) planned (Nat.zero_le _) committed
    rw [shown, ← configured]
    exact firstPage_commit rfl rfl rfl
  · rw [← configured]
    exact coherent_iff
  · intro unnumbered
    rw [← configured] at unnumbered
    exact unnumbered.pageNum
  · intro everything unfiltered
    exact (everything_new.perform everything unfiltered serves calls t).behind_iff

/-- Seven songs, of which two are not shown, two on a page, one page appended to the other: three pages, of which
the second one fails at first, back to where the number of the page is negative, and then anew. -/
theorem position_is_coherent_songs :
    let config : Config :=
      { resource := "item", pageLimit := 2, append := true
        filter := some fun r => not (["song2", "song4"].contains (r.name?.getD "")) }
    let songs := Listing.namedRecords "song" 7
    let rough : Schedule := { Schedule.calm with
      exchange := fun n => if n = 2 then .replyLost (.connection "gone") else .carried }
    let env := rough.environment (Listing.peer songs) fun _ => none
    let calls := [.fetch 8 .empty true, .next 8 .empty, .next 8 .empty, .previous 8 .empty, .previous 8 .empty]
    let reached := (perform calls (new config)).run env (.start ())
    let first := (reached.value.fetch 8 .empty true).run env reached.peer
    (reached.value.Coherent ∧ reached.value.pageNum < 0) ∧
      passedOver config songs first.value.2.offset = 0 ∧
      first.value.2.pageNum = 0 ∧ first.value.2.hasPreviousPage = false := by
  intro config songs rough env calls reached first
  have deep : ∀ r ∈ songs, r.toJson.depth < Json.Document.depthLimit := by decide +kernel
  have serves : Serves env songs config.batchLimit (fun _ => True) :=
    (Listing.serves_over rough _ deep (by decide +kernel)).mono fun _ _ => trivial
  have came : ((perform calls (new config)).run env (.start ())).value = reached.value := rfl
  have result : (reached.value.fetch 8 .empty true).run env reached.peer = first := rfl
  have coherent := position_is_coherent serves calls (.start ())
  simp only [came] at coherent
  obtain ⟨anew, coherent, -⟩ := coherent
  have there := anew 8 .empty reached.peer
  rw [result] at there
  have committed : first.value.1 = .committed := by decide +kernel
  have configured : reached.value.config = config := perform_configured env calls (new config) (.start ())
  have counts : reached.value.Counts := .inr (.inl (configured ▸ by decide))
  have numbered : ¬ config.Unnumbered := fun unnumbered => absurd unnumbered.1 (by decide)
  have here : reached.value.Coherent := (coherent counts).mpr fun both => numbered both.1
  have none_passed : passedOver config songs first.value.2.offset = 0 := by decide +kernel
  exact ⟨⟨here, by decide +kernel⟩, none_passed, there committed (.inr none_passed)⟩

/-- Behind a page with everything there is an empty one with the number zero, and still a page before it. -/
theorem position_is_not_coherent :
    let everything : Config := { resource := "item", pageLimit := 0 }
    let env := Schedule.calm.environment (Listing.peer (Listing.namedRecords "r" 2)) fun _ => none
    let last := (perform [.fetch 8 .empty true, .next 8 .empty] (new everything)).run env (.start ())
    ¬ (last.value.hasPreviousPage = true ↔ 0 < last.value.pageNum) := by
  decide +kernel

end Depot.Collection
