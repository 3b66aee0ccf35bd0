import Depot.Proofs.Collection.Listing

/-!
# Back and forth through a listing with a filter

Whatever is called on a collection with a filter, in whatever order, and whatever fails on the way, what it
shows is page `k` of the listing for some `k`, or nothing yet (`Placed`).  What belongs to page `k` does not
depend on how it was reached (`navigation_path_independent`).

The invariant of a page is `OnPage`: the page is shown, and the stack holds the raw offsets at which all pages
up to it begin.  Every call plans some page together with the stack of the pages before it (`BeginsPage`), and
a plan of page `k` that is committed leads to page `k`; so each kind of call needs only to say which page it
plans.
-/

namespace Depot

namespace OffsetStack

/-- The top of the stack is the end of the list. -/
theorem current?_eq_getLast? (s : OffsetStack) : s.current? = s.toList.getLast? := by
  rw [current?, toList, List.getLast?_reverse]

theorem eq_of_toList_eq {s s' : OffsetStack} (same : s.toList = s'.toList) : s = s' := by
  cases s
  cases s'
  exact congrArg OffsetStack.mk (List.reverse_inj.mp same)

end OffsetStack

namespace Collection

open Dialogue (Environment)
open Listing (Serves)

/-! ### Calls -/

/-- What can be called on a collection. -/
inductive Call where
  | fetch (patience : Nat) (params : Params) (anew : Bool)
  | next (patience : Nat) (params : Params)
  | previous (patience : Nat) (params : Params)
  | reset
  deriving DecidableEq

/-- The collection behind a call, however the call ends. -/
def Call.on (c : Collection) : Call → Dialogue Notice Collection
  | fetch patience params anew => return (← c.fetch patience params anew).2
  | next patience params => return (← c.fetchNext patience params).2
  | previous patience params => return (← c.fetchPrevious patience params).2
  | reset => return c.reset

/-- One call after the other. -/
def perform : List Call → Collection → Dialogue Notice Collection
  | [], c => return c
  | call :: rest, c => do perform rest (← call.on c)

variable {σ τ : Type} {env : Environment σ} {env' : Environment τ} {listing : List Record}
  {causes : HttpError → Prop} {config : Config} {c d : Collection} {k patience : Nat} {t : σ}

/-! ### Pages and their stacks -/

/-- Where the first `k` pages begin. -/
def starts (config : Config) (listing : List Record) (k : Nat) : List Nat :=
  (List.range k).map (boundary config.accepts config.pageLimit listing)

theorem starts_succ (k : Nat) : starts config listing (k + 1) =
    starts config listing k ++ [boundary config.accepts config.pageLimit listing k] := by
  rw [starts, List.range_succ, List.map_append]
  rfl

theorem length_starts (k : Nat) : (starts config listing k).length = k := by
  rw [starts, List.length_map, List.length_range]

/-- The collection is on page `k`. -/
structure OnPage (config : Config) (listing : List Record) (k : Nat) (c : Collection) : Prop where
  configured : c.config = config
  shows : c.Shows (page config listing k)
  /-- The stack knows where the pages up to this one begin. -/
  stack : c.stack.toList = starts config listing (k + 1)

/-- The collection is on some page, or as it was made. -/
inductive Placed (config : Config) (listing : List Record) : Collection → Prop where
  | fresh : Placed config listing (new config)
  | onPage {k : Nat} {c : Collection} (on : OnPage config listing k c) : Placed config listing c

theorem Placed.configured (placed : Placed config listing c) : c.config = config := by
  cases placed with
  | fresh => rfl
  | onPage on => exact on.configured

/-- The plan of page `k`. -/
structure BeginsPage (config : Config) (listing : List Record) (k : Nat) (plan : Plan) : Prop where
  start : plan.start = boundary config.accepts config.pageLimit listing k
  /-- The stack knows where the pages before this one begin. -/
  stack : plan.stack.toList = starts config listing k

/-- **A plan of page `k` that is committed** leads to page `k`. -/
theorem BeginsPage.onPage_commit {plan : Plan} (begins : BeginsPage config listing k plan)
    (same : c.config = config) (positive : 0 < config.pageLimit) (single : config.append = false)
    (tracks : config.tracksPages = true) :
    OnPage config listing k
      (c.commit plan (pageFrom config.accepts config.pageLimit listing plan.start)) where
  configured := same
  shows := by
    rw [begins.start, pageFrom_boundary positive]
    apply shows_commit
    rw [same, single]
  stack := by
    have pushed : (c.commit plan (pageFrom config.accepts config.pageLimit listing plan.start)).stack =
        plan.stack.push plan.start := by
      show (if c.config.tracksPages then _ else _) = _
      rw [same, if_pos tracks]
    rw [pushed, OffsetStack.toList_push, begins.stack, begins.start, starts_succ]

/-! ### Which page a call plans -/

/-- To fetch without a reset is to go on. -/
theorem OnPage.planFetch (on : OnPage config listing k c) (params : Params) :
    BeginsPage config listing (k + 1) (c.planFetch params false) :=
  ⟨on.shows.offset, on.stack⟩

/-- The first page is planned with a reset, and by a collection that has not fetched anything. -/
theorem beginsPage_zero {plan : Plan} (start : plan.start = 0) (stack : plan.stack.toList = []) :
    BeginsPage config listing 0 plan where
  start := start.trans (boundary_zero _ _).symm
  stack := stack

theorem Placed.planFetch (placed : Placed config listing c) (params : Params) (reset : Bool) :
    ∃ k, BeginsPage config listing k (c.planFetch params reset) := by
  cases reset with
  | true => exact ⟨0, beginsPage_zero rfl rfl⟩
  | false =>
    cases placed with
    | fresh => exact ⟨0, beginsPage_zero rfl rfl⟩
    | onPage on => exact ⟨_, on.planFetch params⟩

/-- **The way back from page `k`** is to page `k - 1`, and from the first page to itself: of the stack of
page `k`, the top is taken off for page `k`, and then the next one for the page to be shown. -/
theorem OnPage.planPrevious (on : OnPage config listing k c) (tracks : config.tracksPages = true)
    (params : Params) : BeginsPage config listing (k - 1) (c.planPrevious params) := by
  have plan : c.planPrevious params =
      ⟨c.stack.pop.current?.getD 0, c.stack.pop.pop, c.params.override params, false⟩ := by
    rw [Collection.planPrevious, on.configured, if_pos tracks]
  have below : c.stack.pop.toList = starts config listing k := by
    rw [OffsetStack.toList_pop, on.stack, starts_succ, List.dropLast_concat]
  rw [plan]
  -- below the first page there is nothing on the stack, so the first page is begun again
  cases k with
  | zero =>
    apply beginsPage_zero
    · show c.stack.pop.current?.getD 0 = 0
      rw [OffsetStack.current?_eq_getLast?, below]
      rfl
    · show c.stack.pop.pop.toList = []
      rw [OffsetStack.toList_pop, below]
      rfl
  | succ k =>
    constructor
    · show c.stack.pop.current?.getD 0 = _
      rw [OffsetStack.current?_eq_getLast?, below, starts_succ, List.getLast?_concat]
      rfl
    · show c.stack.pop.pop.toList = starts config listing k
      rw [OffsetStack.toList_pop, below, starts_succ, List.dropLast_concat]

theorem Placed.planPrevious (placed : Placed config listing c) (tracks : config.tracksPages = true)
    (params : Params) : ∃ k, BeginsPage config listing k (c.planPrevious params) := by
  cases placed with
  | fresh =>
    refine ⟨0, ?_⟩
    rw [Collection.planPrevious]
    show BeginsPage config listing 0 (if config.tracksPages then _ else _)
    rw [if_pos tracks]
    exact beginsPage_zero rfl rfl
  | onPage on => exact ⟨_, on.planPrevious tracks params⟩

/-! ### One call, and all calls -/

/-- How a call that is to show page `k` may end: it does, or the collection is as it was. -/
inductive Turned (config : Config) (listing : List Record) (causes : HttpError → Prop) (k patience : Nat)
    (c : Collection) : Fetched × Collection → Prop where
  | shown {d : Collection} (on : OnPage config listing k d) :
      Turned config listing causes k patience c (.committed, d)
  | failed (cause : HttpError) (known : causes cause) :
      Turned config listing causes k patience c (.failed cause, c)
  | unfinished (short : patience ≤ listing.length) :
      Turned config listing causes k patience c (.unfinished, c)

/-- A call that carries out a plan of page `k` turns to page `k`. -/
theorem BeginsPage.carryOut_meets {plan : Plan} (begins : BeginsPage config listing k plan)
    (same : c.config = config) (serves : Serves env listing config.batchLimit causes)
    (positive : 0 < config.pageLimit) (single : config.append = false)
    (tracks : config.tracksPages = true) :
    (c.carryOut patience plan).Meets env .any
      (fun result _ => Turned config listing causes k patience c result) t := by
  subst same
  have inside : plan.start ≤ listing.length := by
    rw [begins.start]
    exact boundary_le_length _ _ _
  refine (Collection.carryOut_meets serves inside).mono ?_
  intro result _ _ carried
  cases carried with
  | committed => exact .shown (begins.onPage_commit rfl positive single tracks)
  | failed cause known => exact .failed cause known
  | unfinished short => exact .unfinished short

/-- However a call ends, the collection is on a page or as it was. -/
theorem Turned.placed {result : Fetched × Collection}
    (turned : Turned config listing causes k patience c result) (placed : Placed config listing c) :
    Placed config listing result.2 := by
  cases turned with
  | shown on => exact .onPage on
  | failed => exact placed
  | unfinished => exact placed

/-- **No call leads astray.** -/
theorem call_meets (serves : Serves env listing config.batchLimit causes)
    (positive : 0 < config.pageLimit) (single : config.append = false)
    (tracks : config.tracksPages = true) (placed : Placed config listing c) (call : Call) :
    (call.on c).Meets env .any (fun d _ => Placed config listing d) t := by
  -- every call but a reset carries out the plan of some page
  have stays {plan : Plan} {patience : Nat} (begins : ∃ k, BeginsPage config listing k plan) :
      (do return (← c.carryOut patience plan).2 : Dialogue Notice Collection).Meets env .any
        (fun d _ => Placed config listing d) t := by
    obtain ⟨k, begins⟩ := begins
    rw [Dialogue.meets_bind]
    refine (begins.carryOut_meets placed.configured serves positive single tracks).mono ?_
    intro result _ _ turned
    exact ⟨trivial, turned.placed placed⟩
  cases call with
  | fetch patience params anew => exact stays (placed.planFetch params anew)
  | next patience params => exact stays (placed.planFetch _ false)
  | previous patience params => exact stays (placed.planPrevious tracks params)
  | reset =>
    refine ⟨trivial, ?_⟩
    rw [reset, placed.configured]
    exact .fresh

/-- Nor does any number of calls. -/
theorem perform_meets (serves : Serves env listing config.batchLimit causes)
    (positive : 0 < config.pageLimit) (single : config.append = false)
    (tracks : config.tracksPages = true) (placed : Placed config listing c) (calls : List Call) :
    (perform calls c).Meets env .any (fun d _ => Placed config listing d) t := by
  induction calls generalizing c t with
  | nil => exact ⟨trivial, placed⟩
  | cons call rest ih =>
    rw [perform, Dialogue.meets_bind]
    refine (call_meets serves positive single tracks placed call).mono ?_
    intro d u _ came
    exact ih came

/-! ### What belongs to a page -/

theorem OnPage.pageNum (on : OnPage config listing k c) (tracks : config.tracksPages = true) :
    c.pageNum = k := by
  have depth : c.stack.depth = k + 1 := by
    rw [← OffsetStack.length_toList, on.stack, length_starts]
  rw [Collection.pageNum, on.configured, if_pos tracks, depth]
  omega

theorem pageNum_new (tracks : config.tracksPages = true) : (new config).pageNum = -1 := by
  show (if config.tracksPages then _ else _) = _
  rw [if_pos tracks]
  rfl

/-- A collection with a filter is on the page of its number. -/
theorem Placed.onPage_of_pageNum (placed : Placed config listing c)
    (tracks : config.tracksPages = true) (number : c.pageNum = k) : OnPage config listing k c := by
  cases placed with
  | fresh =>
    rw [pageNum_new tracks] at number
    omega
  | onPage on =>
    rw [on.pageNum tracks, Int.ofNat_inj] at number
    exact number ▸ on

/-- **The page decides** what is shown, and the stack. -/
theorem OnPage.unique (on : OnPage config listing k c) (on' : OnPage config listing k d)
    (tracks : config.tracksPages = true) : c.window = d.window ∧ c.stack = d.stack := by
  have number : c.pageNum = d.pageNum := (on.pageNum tracks).trans (on'.pageNum tracks).symm
  constructor
  · rw [window, window, hasNextPage, hasNextPage, hasPreviousPage, hasPreviousPage, on.configured,
      on'.configured, if_pos tracks, if_pos tracks, number, on.shows.records, on'.shows.records,
      on.shows.offset, on'.shows.offset, on.shows.hasMore, on'.shows.hasMore]
  · exact OffsetStack.eq_of_toList_eq (on.stack.trans on'.stack.symm)

/-- To be placed is to be as new, or on the page of one's number. -/
theorem Placed.eq_new_or (placed : Placed config listing c) (tracks : config.tracksPages = true) :
    c = new config ∨ ∃ k : Nat, c.pageNum = k ∧ OnPage config listing k c := by
  cases placed with
  | fresh => exact .inl rfl
  | onPage on => exact .inr ⟨_, on.pageNum tracks, on⟩

theorem Placed.unique (placed : Placed config listing c) (placed' : Placed config listing d)
    (tracks : config.tracksPages = true) (same : c.pageNum = d.pageNum) :
    c.window = d.window ∧ c.stack = d.stack := by
  cases placed with
  | onPage on =>
    have number := same.symm.trans (on.pageNum tracks)
    exact on.unique (placed'.onPage_of_pageNum tracks number) tracks
  | fresh =>
    cases placed' with
    | fresh => exact ⟨rfl, rfl⟩
    | onPage on =>
      rw [pageNum_new tracks, on.pageNum tracks] at same
      omega

/-! ### Path independence -/

/-- One page back. -/
theorem OnPage.fetchPrevious_meets (on : OnPage config listing (k + 1) c)
    (serves : Serves env listing config.batchLimit causes) (positive : 0 < config.pageLimit)
    (single : config.append = false) (tracks : config.tracksPages = true) (params : Params) :
    (c.fetchPrevious patience params).Meets env .any
      (fun result _ => Turned config listing causes k patience c result) t := by
  have begins := on.planPrevious tracks params
  rw [Nat.add_sub_cancel] at begins
  exact begins.carryOut_meets on.configured serves positive single tracks

/-- **Navigation with a filter is path-independent.**  After any calls, failed ones among them, the
collection is as it was made or on the page of its number; two collections on pages of the same number show
the same and have the same stack; and the way back from page `k + 1` is to page `k`. -/
theorem navigation_path_independent (serves : Serves env listing config.batchLimit causes)
    (serves' : Serves env' listing config.batchLimit causes) (positive : 0 < config.pageLimit)
    (filtered : config.filter.isSome = true) (single : config.append = false)
    (calls calls' : List Call) (t : σ) (t' : τ) :
    let c := ((perform calls (new config)).run env t).value
    let c' := ((perform calls' (new config)).run env' t').value
    (c = new config ∨ ∃ k : Nat, c.pageNum = k ∧ OnPage config listing k c) ∧
    (c.pageNum = c'.pageNum → c.window = c'.window ∧ c.stack = c'.stack) ∧
    ∀ (k : Nat) patience params u, c.pageNum = k + 1 →
      Turned config listing causes k patience c ((c.fetchPrevious patience params).run env u).value := by
  intro c c'
  have tracks : config.tracksPages = true := by
    rw [Config.tracksPages, filtered, single]
    rfl
  have placed : Placed config listing c :=
    (Dialogue.meets_iff.mp (perform_meets serves positive single tracks .fresh calls)).2.2
  have placed' : Placed config listing c' :=
    (Dialogue.meets_iff.mp (perform_meets serves' positive single tracks .fresh calls')).2.2
  refine ⟨placed.eq_new_or tracks, placed.unique placed' tracks, ?_⟩
  intro k patience params u number
  have on : OnPage config listing (k + 1) c := placed.onPage_of_pageNum tracks number
  exact (Dialogue.meets_iff.mp (on.fetchPrevious_meets serves positive single tracks params)).2.2

/-- Seven songs, of which the third one is not shown, two on a page: the second page, reached with a request
that is lost on the way, and on the way back from behind the end. -/
theorem navigation_path_independent_songs :
    let config : Config :=
      { resource := "item", pageLimit := 2, filter := some (·.name? != some "song2") }
    let songs := Listing.namedRecords "song" 7
    let rough : Schedule := { Schedule.calm with
      exchange := fun n => if n = 1 then .requestLost (.connection "gone") else .carried }
    let c := ((perform [.next 8 .empty, .next 8 .empty, .fetch 8 .empty false] (new config)).run
      (rough.environment (Listing.peer songs) fun _ => none) (.start ())).value
    let c' := ((perform [.next 8 .empty, .next 8 .empty, .next 8 .empty, .next 8 .empty,
      .previous 8 .empty, .previous 8 .empty] (new config)).run
      (Schedule.calm.environment (Listing.peer songs) fun _ => none) (.start ())).value
    c.pageNum = 1 ∧ c.window = c'.window ∧ c.stack = c'.stack := by
  intro config songs rough c c'
  have deep : ∀ r ∈ songs, r.toJson.depth < Json.Document.depthLimit := by decide +kernel
  -- what may fail on the way is left open
  have serves {schedule : Schedule} : Listing.Serves (schedule.environment (Listing.peer songs) fun _ => none)
      songs config.batchLimit (fun _ => True) :=
    (Listing.serves_over schedule _ deep (by decide +kernel)).mono fun _ _ => trivial
  obtain ⟨-, same, -⟩ := navigation_path_independent serves serves (by decide) rfl rfl
    [.next 8 .empty, .next 8 .empty, .fetch 8 .empty false]
    [.next 8 .empty, .next 8 .empty, .next 8 .empty, .next 8 .empty, .previous 8 .empty,
      .previous 8 .empty] (.start ()) (.start ())
  have second : c.pageNum = 1 := by decide +kernel
  have second' : c'.pageNum = 1 := by decide +kernel
  exact ⟨second, same (second.trans second'.symm)⟩

end Collection

end Depot
