import Depot.Proofs.Collection.Batches

/-!
# The stack of a collection, whoever answers

A server may answer what it likes: change its listing from one request to the next, send more than was asked
for, or fail.  Then the offsets on the stack of a collection with a filter need not be where the pages of any
listing begin, but they are in order all the same (`Disciplined`): the first page begins at zero, no page
before the one in front of it, and the present one where it was asked for.

Every call plans a trail of offsets, the stack and on top of it where the call is to begin (`Plan.trail`), and
a plan whose trail is in order leads to a disciplined collection, since a page does not end before it begins.
So each kind of call needs only to say which trail it plans.
-/

namespace Depot.Collection

open Dialogue (Environment Log)

variable {σ : Type} {env : Environment σ} {config : Config} {c : Collection} {plan : Plan} {call : Call}
  {began : Option String} {t : σ}

/-! ### Offsets in order -/

/-- Where some pages begin, from the first one on: at zero, and none before the one in front of it. -/
structure InOrder (offsets : List Nat) : Prop where
  bottom : offsets.head? = some 0
  ascending : offsets.Pairwise (· ≤ ·)

theorem inOrder_zero : InOrder [0] := ⟨rfl, List.pairwise_singleton _ 0⟩

/-- No offset is above the last one. -/
theorem InOrder.le_last {offsets : List Nat} {last : Nat} (order : InOrder (offsets ++ [last])) :
    ∀ n ∈ offsets, n ≤ last := by
  intro n hn
  exact (List.pairwise_append.mp order.ascending).2.2 n hn last (List.mem_singleton_self last)

/-- One page more. -/
theorem InOrder.concat {offsets : List Nat} {last next : Nat} (order : InOrder (offsets ++ [last]))
    (le : last ≤ next) : InOrder (offsets ++ [last] ++ [next]) where
  bottom := by
    rw [List.head?_append, order.bottom]
    rfl
  ascending := by
    refine List.pairwise_append.mpr ⟨order.ascending, List.pairwise_singleton _ next, ?_⟩
    intro n hn m hm
    obtain rfl := List.mem_singleton.mp hm
    rcases List.mem_append.mp hn with hn | hn
    · exact Nat.le_trans (order.le_last n hn) le
    · rwa [List.mem_singleton.mp hn]

/-- One page less, if there is another one. -/
theorem InOrder.of_concat {offsets : List Nat} {last : Nat} (order : InOrder (offsets ++ [last]))
    (more : offsets ≠ []) : InOrder offsets where
  bottom := by
    obtain ⟨first, others, rfl⟩ := List.exists_cons_of_ne_nil more
    exact order.bottom
  ascending := (List.pairwise_append.mp order.ascending).1

/-- Where the pages begin that a plan leads to. -/
def Plan.trail (plan : Plan) : List Nat := plan.stack.toList ++ [plan.start]

/-! ### Discipline -/

/-- **The stack is disciplined.**  Here `began` is the raw offset that was asked for first when the page was
fetched that is shown. -/
structure Disciplined (began : Option String) (c : Collection) : Prop where
  /-- The stack is empty, or it begins with zero and does not descend. -/
  order : c.stack.toList = [] ∨ InOrder c.stack.toList
  /-- On top is where the page began that is shown. -/
  top : c.stack.current?.map toString = began
  /-- The page that is shown does not end before it begins. -/
  within : ∀ start, c.stack.current? = some start → start ≤ c.offset
  depth : (c.stack.depth : Int) = c.pageNum + 1
  /-- As long as no page is shown, the first one is to come. -/
  fresh : c.stack.toList = [] → c.offset = 0

/-- The page number that a call is to lead to. -/
def Call.turned (number : Int) : Call → Int
  | fetch _ _ anew => if anew then 0 else number + 1
  | next _ _ => number + 1
  | previous _ _ => max (number - 1) 0
  | reset => -1

theorem pageNum_eq (tracks : c.config.tracksPages = true) : c.pageNum = c.stack.depth - 1 := by
  rw [pageNum, if_pos tracks]

theorem disciplined_new (tracks : config.tracksPages = true) : Disciplined none (new config) where
  order := .inl rfl
  top := rfl
  within := by
    rintro start ⟨⟩
  depth := by
    rw [pageNum_new tracks]
    rfl
  fresh := fun _ => rfl

/-- **A plan whose trail is in order** leads to a disciplined collection, whatever page comes. -/
theorem disciplined_commit (tracks : c.config.tracksPages = true) (order : InOrder plan.trail) {page : Page}
    (le : plan.start ≤ page.offset) :
    Disciplined (some (toString plan.start)) (c.commit plan page) ∧
      (c.commit plan page).pageNum = plan.stack.depth := by
  have stack : (c.commit plan page).stack = plan.stack.push plan.start := if_pos tracks
  have trail : (c.commit plan page).stack.toList = plan.trail := by
    rw [stack, OffsetStack.toList_push]
    rfl
  have top : (c.commit plan page).stack.current? = some plan.start := by
    rw [stack]
    rfl
  have number : (c.commit plan page).pageNum = (c.commit plan page).stack.depth - 1 := pageNum_eq tracks
  refine ⟨⟨.inr (trail ▸ order), ?_, ?_, ?_, ?_⟩, ?_⟩
  · rw [top]
    rfl
  · intro start at_top
    rw [top] at at_top
    cases at_top
    exact le
  · omega
  · intro empty
    rw [trail] at empty
    exact absurd empty (List.append_ne_nil_of_right_ne_nil _ (List.cons_ne_nil _ _))
  · rw [number, stack]
    show ((plan.stack.depth + 1 : Nat) : Int) - 1 = _
    omega

namespace Disciplined

variable (disciplined : Disciplined began c)

include disciplined

/-- To go on is to put the present offset on top. -/
theorem inOrder_planFetch (params : Params) : InOrder (c.planFetch params false).trail := by
  show InOrder (c.stack.toList ++ [c.offset])
  rcases stack : c.stack.offsets with - | ⟨top, below⟩
  · have empty : c.stack.toList = [] := by rw [OffsetStack.toList, stack, List.reverse_nil]
    rw [empty, disciplined.fresh empty]
    exact inOrder_zero
  · have split : c.stack.toList = below.reverse ++ [top] := by
      rw [OffsetStack.toList, stack, List.reverse_cons]
    have le : top ≤ c.offset := disciplined.within top (by rw [OffsetStack.current?, stack, List.head?_cons])
    rcases disciplined.order with empty | order
    · exact absurd (split.symm.trans empty) (List.append_ne_nil_of_right_ne_nil _ (List.cons_ne_nil _ _))
    · rw [split] at order ⊢
      exact order.concat le

/-- To go back is to take the present offset off, as long as another one is left. -/
theorem inOrder_planPrevious (tracks : c.config.tracksPages = true) (params : Params) :
    InOrder (c.planPrevious params).trail := by
  have planned : c.planPrevious params =
      ⟨c.stack.offsets.tail.head?.getD 0, ⟨c.stack.offsets.tail.tail⟩, c.params.override params, false⟩ := by
    rw [Collection.planPrevious, if_pos tracks]
    rfl
  rw [planned, Plan.trail]
  -- the first page is begun again unless there is an offset below the top
  rcases stack : c.stack.offsets with - | ⟨top, - | ⟨next, below⟩⟩
  · exact inOrder_zero
  · exact inOrder_zero
  · show InOrder (below.reverse ++ [next])
    have split : c.stack.toList = below.reverse ++ [next] ++ [top] := by
      rw [OffsetStack.toList, stack, List.reverse_cons, List.reverse_cons]
    rcases disciplined.order with empty | order
    · exact absurd (split.symm.trans empty) (List.append_ne_nil_of_right_ne_nil _ (List.cons_ne_nil _ _))
    · rw [split] at order
      exact order.of_concat (List.append_ne_nil_of_right_ne_nil _ (List.cons_ne_nil _ _))

/-- **Every call plans a trail in order**, and so many pages before its own as its page number says. -/
theorem inOrder_trail (tracks : c.config.tracksPages = true) (planned : call.plan? c = some plan) :
    InOrder plan.trail ∧ (plan.stack.depth : Int) = call.turned c.pageNum := by
  have depth := disciplined.depth
  cases call with
  | fetch patience params anew =>
    obtain rfl := Option.some.inj planned
    cases anew with
    | true => exact ⟨inOrder_zero, rfl⟩
    | false => exact ⟨disciplined.inOrder_planFetch params, depth⟩
  | next patience params =>
    obtain rfl := Option.some.inj planned
    exact ⟨disciplined.inOrder_planFetch _, depth⟩
  | previous patience params =>
    obtain rfl := Option.some.inj planned
    refine ⟨disciplined.inOrder_planPrevious tracks params, ?_⟩
    have below : (c.planPrevious params).stack.depth = c.stack.depth - 2 := by
      rw [Collection.planPrevious, if_pos tracks]
      show c.stack.offsets.tail.tail.length = c.stack.offsets.length - 2
      rw [List.length_tail, List.length_tail, Nat.sub_sub]
    show _ = max (c.pageNum - 1) 0
    omega
  | reset => cases planned

/-- **A call that succeeds** keeps the discipline and turns the page. -/
theorem tried (tracks : c.config.tracksPages = true) (call : Call) (t : σ)
    (committed : ((call.tried c).run env t).value.1 = .committed) :
    Disciplined (askedFrom ((call.tried c).run env t).log) ((call.tried c).run env t).value.2 ∧
      ((call.tried c).run env t).value.2.config = c.config ∧
      ((call.tried c).run env t).value.2.pageNum = call.turned c.pageNum := by
  rcases planned : call.plan? c with - | plan
  · obtain rfl := Call.eq_reset planned
    exact ⟨disciplined_new tracks, rfl, pageNum_new tracks⟩
  · obtain ⟨asked, earlier, last, page, -, of, commit⟩ := tried_pageOf env t planned committed
    obtain ⟨order, turned⟩ := disciplined.inOrder_trail tracks planned
    obtain ⟨kept, number⟩ := disciplined_commit tracks order of.start_le
    rw [asked, commit]
    exact ⟨kept, rfl, number.trans turned⟩

end Disciplined

/-! ### All calls -/

/-- The raw offset that was asked for first when the page was fetched that is shown after these calls, if it
was `began` before them. -/
def beganAt (env : Environment σ) : List Call → Collection → σ → Option String → Option String
  | [], _, _, began => began
  | call :: rest, c, t, began =>
    let result := (call.tried c).run env t
    beganAt env rest result.value.2 result.peer
      (if result.value.1 = .committed then askedFrom result.log else began)

theorem Disciplined.perform (disciplined : Disciplined began c) (configured : c.config = config)
    (tracks : config.tracksPages = true) (calls : List Call) :
    Disciplined (beganAt env calls c t began) ((perform calls c).run env t).value ∧
      ((perform calls c).run env t).value.config = config := by
  refine perform_induction env (P := fun calls c t d => ∀ began, Disciplined began c → c.config = config →
    Disciplined (beganAt env calls c t began) d ∧ d.config = config) ?_ ?_ ?_ calls c t began disciplined configured
  · exact fun _ _ _ disciplined configured => ⟨disciplined, configured⟩
  · intro call rest c t d committed others began disciplined configured
    obtain ⟨kept, same, -⟩ := disciplined.tried (configured ▸ tracks) call t committed
    rw [beganAt, if_pos committed]
    exact others _ kept (same.trans configured)
  · intro call rest c t d uncommitted unchanged others began disciplined configured
    rw [beganAt, if_neg uncommitted, unchanged]
    exact others began disciplined configured

/-- **The stack keeps its discipline, whoever answers.**  After any calls on a collection with a filter its
stack is in order, with the offset on top that was asked for first for the page that is shown; a call that
succeeds turns the page, and one that does not leaves the collection as it was.  And with or without a filter,
a page that is told to have more behind it is full and ends behind where it was asked for. -/
theorem stack_discipline (filtered : config.filter.isSome = true) (single : config.append = false)
    (env : Environment σ) (calls : List Call) (t : σ) :
    let c := ((perform calls (new config)).run env t).value
    Disciplined (beganAt env calls (new config) t none) c ∧
    (∀ (call : Call) u, let result := (call.tried c).run env u
      (result.value.1 = .committed → result.value.2.pageNum = call.turned c.pageNum) ∧
      (result.value.1 ≠ .committed → result.value.2 = c)) ∧
    ∀ (d : Collection) (call : Call) plan u, 0 < d.config.pageLimit → call.plan? d = some plan →
      let result := (call.tried d).run env u
      let shown := result.value.2
      result.value.1 = .committed → shown.hasNextPage = true →
        askedFrom result.log = some (toString plan.start) ∧ plan.start < shown.offset ∧
        ∃ page, page.length = d.config.pageLimit ∧
          shown.records = d.carriedOver plan ++ page := by
  intro c
  have tracks : config.tracksPages = true := by
    rw [Config.tracksPages, filtered, single]
    rfl
  obtain ⟨disciplined, configured⟩ : Disciplined (beganAt env calls (new config) t none) c ∧ c.config = config :=
    (disciplined_new tracks).perform rfl tracks calls
  refine ⟨disciplined, ?_, ?_⟩
  · intro call u result
    exact ⟨fun committed => (disciplined.tried (configured ▸ tracks) call u committed).2.2,
      tried_unchanged env c call u⟩
  · intro d call plan u limited planned result shown committed more
    obtain ⟨asked, earlier, last, page, -, of, commit⟩ := tried_pageOf env u planned committed
    obtain ⟨full, -⟩ := of.hasMore.mp ((congrArg Collection.hasMore commit).symm.trans more)
    have offset : shown.offset = page.offset := congrArg Collection.offset commit
    have records : shown.records = (d.commit plan page).records := congrArg Collection.records commit
    exact ⟨asked, offset ▸ of.start_lt full, page.records, full.2, records.trans (records_commit plan page)⟩

/-- A server that sends more than was asked for, then is not reached, then has nothing left, and then has a
listing again: two songs on a page, forward to an empty page and to a full one, and one page back. -/
theorem stack_discipline_songs :
    let config : Config :=
      { resource := "item", pageLimit := 2, filter := some (·.name? != some "song2") }
    let songs := Listing.namedRecords "song" 5
    let rough : Schedule := { Schedule.calm with
      exchange := fun n => if n = 1 then .requestLost (.connection "gone") else .carried }
    let env := rough.environment dealer fun _ => none
    let calls := [.fetch 8 .empty true, .next 8 .empty, .next 8 .empty, .next 8 .empty, .previous 8 .empty]
    let c := ((perform calls (new config)).run env (.start [songs, [], songs, []])).value
    let result := ((Call.next 8 .empty).tried c).run env (.start [songs])
    Disciplined (some "2") c ∧ c.stack.toList = [0, 2] ∧ result.value.2.pageNum = 2 ∧
      2 < result.value.2.offset := by
  intro config songs rough env calls c result
  have reached : ((perform calls (new config)).run env (.start [songs, [], songs, []])).value = c := rfl
  have came : ((Call.next 8 .empty).tried c).run env (.start [songs]) = result := rfl
  have filtered : config.filter.isSome = true := rfl
  obtain ⟨disciplined, turned, behind⟩ := stack_discipline filtered rfl env calls (.start [songs, [], songs, []])
  have began : beganAt env calls (new config) (.start [songs, [], songs, []]) none = some "2" := by
    decide +kernel
  rw [began, reached] at disciplined
  have committed : result.value.1 = .committed := by decide +kernel
  have more : result.value.2.hasNextPage = true := by decide +kernel
  -- the next call goes on from where the page on top began
  have number : c.pageNum = 1 := by decide +kernel
  have turned := (turned (.next 8 .empty) (.start [songs])).1
  rw [reached, number] at turned
  have start : (c.planNext .empty).start = 2 := by decide +kernel
  obtain ⟨-, ahead, -⟩ := behind c (.next 8 .empty) _ (.start [songs]) (by decide +kernel) rfl committed more
  rw [start, came] at ahead
  exact ⟨disciplined, by decide +kernel, turned committed, ahead⟩

end Depot.Collection
