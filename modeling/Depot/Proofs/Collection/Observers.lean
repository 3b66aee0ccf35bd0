import Depot.Proofs.Collection.Batches

/-!
# What the observers of a collection see

Every fetch that succeeds tells what it has committed, and nothing else tells anything.  So the log of a run can
be read off the fetches that have succeeded, one after the other (`observers_see_commits`): each of them tells
first that something has changed, if it has, and then its page to every observer, as the collection shows it
when the call is over.

A page that is appended shows more than was fetched for it, so what is new (`Success.fresh`) is told apart from
what is shown.
-/

namespace Depot

open Dialogue (Environment Log events)

namespace Notice

/-- The observer that is told of a page, the listing that it belongs to, and the page. -/
def page? : Notice → Option (String × String × PageWindow)
  | pageCommitted extension url window => some (extension, url, window)
  | event _ => none

/-- The change that is told. -/
def change? : Notice → Option CollectionEvent
  | event change => some change
  | pageCommitted _ _ _ => none

end Notice

namespace Collection

variable {σ : Type} {env : Environment σ} {config : Config} {c : Collection} {patience : Nat} {plan : Plan}
  {page : Page} {call : Call} {t : σ}

/-! ### Fetches that succeed -/

namespace Call

/-- The call is to fetch something. -/
def fetches : Call → Bool
  | reset => false
  | _ => true

/-- The call is to begin the listing anew. -/
def anew : Call → Bool
  | fetch _ _ anew => anew
  | _ => false

theorem fetches_of_plan? (planned : call.plan? c = some plan) : call.fetches = true := by
  cases call with
  | reset => cases planned
  | fetch => rfl
  | next => rfl
  | previous => rfl

theorem reset_of_plan? (planned : call.plan? c = some plan) : plan.reset = call.anew := by
  cases call with
  | fetch patience params anew =>
    obtain rfl := Option.some.inj planned
    cases anew with
    | true => rfl
    | false => rfl
  | next patience params =>
    obtain rfl := Option.some.inj planned
    rfl
  | previous patience params =>
    obtain rfl := Option.some.inj planned
    show (c.planPrevious params).reset = false
    rw [planPrevious]
    split
    · rfl
    · rfl
  | reset => cases planned

end Call

/-- A fetch that has succeeded: the collection in front of it and behind it, and what has happened in between. -/
structure Success where
  call : Call
  before : Collection
  after : Collection
  log : Log Notice

/-- What a call comes to, if it is a fetch that succeeds. -/
def Call.success (env : Environment σ) (call : Call) (c : Collection) (t : σ) : List Success :=
  let result := (call.tried c).run env t
  if call.fetches = true ∧ result.value.1 = .committed then [⟨call, c, result.value.2, result.log⟩] else []

/-- The fetches that succeed, in their order. -/
def successes (env : Environment σ) : List Call → Collection → σ → List Success
  | [], _, _ => []
  | call :: rest, c, t =>
    let result := (call.tried c).run env t
    call.success env c t ++ successes env rest result.value.2 result.peer

namespace Success

/-- What is shown from before, if pages are appended and this is not the first one. -/
def carried (s : Success) : List Record :=
  if s.before.config.append && !s.call.anew then s.before.records else []

/-- The records that were newly fetched. -/
def fresh (s : Success) : List Record := s.after.records.drop s.carried.length

/-- The call began anew, or something new was fetched. -/
def hasChanged (s : Success) : Bool := s.call.anew || !s.fresh.isEmpty

/-- What is told of a change: how much is new, and where the collection is now. -/
def change (config : Config) (s : Success) : CollectionEvent :=
  .changed config.url s.fresh.length s.after.offset s.call.anew

/-- All that is shown when the call is over. -/
def view (s : Success) : PageWindow where
  records := s.after.records
  offset := s.after.offset
  hasNextPage := s.after.hasNextPage
  hasPreviousPage := s.after.hasPreviousPage
  pageNum := s.after.pageNum

/-- What a fetch tells: that something has changed, if it has, and then the page to every observer. -/
def tells (config : Config) (s : Success) : List Notice :=
  (if s.hasChanged then [.event (s.change config)] else []) ++
    config.extensions.map fun name => .pageCommitted name config.url s.view

theorem pages_tells (config : Config) (s : Success) : (s.tells config).filterMap Notice.page? =
    config.extensions.map fun name => (name, config.url, s.view) := by
  have change : (if s.hasChanged then [.event (s.change config)] else []).filterMap Notice.page? = [] := by
    split
    · rfl
    · rfl
  rw [tells, List.filterMap_append, change, List.nil_append, List.filterMap_map]
  exact congrFun List.filterMap_eq_map _

theorem changes_tells (config : Config) (s : Success) :
    (s.tells config).filterMap Notice.change? = if s.hasChanged then [s.change config] else [] := by
  have pages : (config.extensions.map fun name =>
      Notice.pageCommitted name config.url s.view).filterMap Notice.change? = [] := by
    rw [List.filterMap_map, List.filterMap_eq_nil_iff]
    intro name _
    rfl
  rw [tells, List.filterMap_append, pages, List.append_nil]
  split
  · rfl
  · rfl

/-- What is new is the page of the batches that came for it, and it stands behind what was shown before. -/
structure Fetched (config : Config) (s : Success) : Prop where
  records : s.after.records = s.carried ++ s.fresh
  batches : ∃ plan, s.call.plan? s.before = some plan ∧ ∃ earlier last page, Came s.log (earlier ++ [last]) ∧
    PageOf config.pageLimit config.accepts plan.start earlier last page ∧
    page.records = s.fresh ∧ page.offset = s.after.offset

end Success

/-! ### One call -/

/-- **A call tells what it commits**, and a call that does not succeed tells nothing. -/
theorem carryOut_told (plan : Plan) :
    (c.carryOut patience plan).Honours .any (fun after log =>
      (after.1 ≠ .committed → events log = []) ∧
      (after.1 = .committed → ∃ earlier last page, Came log (earlier ++ [last]) ∧
        PageOf c.config.pageLimit c.config.accepts plan.start earlier last page ∧
        after.2 = c.commit plan page ∧ events log = (c.commit plan page).notices plan page)) [] := by
  rw [carryOut, Dialogue.honours_bind]
  -- while the page is put together, nothing is told
  have silent : (assemble c.config plan.params patience (.start plan.start)).Honours .any _ [] :=
    assemble_traceless (fun _ _ => trivial) (.start plan.start) not_disturbed_nil rfl
  refine (silent.and (assemble_gathered came_nil (Scan.gathers_start _ _ plan.start))).mono ?_
  rintro (outcome | page) log ⟨⟨-, silent⟩, gathered⟩
  · exact ⟨fun _ => silent, fun committed => absurd committed gathered⟩
  · obtain ⟨earlier, last, came, of⟩ := gathered
    rw [Dialogue.honours_bind, Dialogue.honours_tellAll]
    refine ⟨fun uncommitted => absurd rfl uncommitted, fun _ => ⟨earlier, last, page, ?_, of, rfl, ?_⟩⟩
    · rwa [Came, Dialogue.exchanges_append, Dialogue.exchanges_map_told, List.append_nil]
    · rw [Dialogue.events_append, silent, Dialogue.events_map_told, List.nil_append]

/-- What a fetch has told that succeeds. -/
theorem tried_told (planned : call.plan? c = some plan) (env : Environment σ) (t : σ) :
    let result := (call.tried c).run env t
    (result.value.1 ≠ .committed → events result.log = []) ∧
    (result.value.1 = .committed → ∃ earlier last page, Came result.log (earlier ++ [last]) ∧
      PageOf c.config.pageLimit c.config.accepts plan.start earlier last page ∧
      result.value.2 = c.commit plan page ∧ events result.log = (c.commit plan page).notices plan page) := by
  obtain ⟨patience, tried⟩ := Call.tried_eq_carryOut planned
  rw [tried]
  exact ((carryOut_told plan).run env t (Dialogue.follows_any _ _)).2

/-- The fetch of a plan that shows its page. -/
def Success.of (c : Collection) (call : Call) (plan : Plan) (page : Page) (log : Log Notice) : Success :=
  ⟨call, c, c.commit plan page, log⟩

section Commit

variable {log : Log Notice} (planned : call.plan? c = some plan)

include planned

theorem carried_of_plan? : (Success.of c call plan page log).carried = c.carriedOver plan := by
  rw [carriedOver, Call.reset_of_plan? planned]
  rfl

/-- The page of a plan is what is new. -/
theorem fresh_of_plan? : (Success.of c call plan page log).fresh = page.records := by
  rw [Success.fresh, carried_of_plan? planned]
  show (c.commit plan page).records.drop _ = _
  rw [records_commit, List.drop_left]

/-- **A page that is committed** is told as the fetch has it. -/
theorem notices_eq_tells : (c.commit plan page).notices plan page =
    (Success.of c call plan page log).tells c.config := by
  have changed : (0 < page.records.length ∨ plan.reset = true) ↔
      (Success.of c call plan page log).hasChanged = true := by
    rw [Success.hasChanged, fresh_of_plan? planned, Call.reset_of_plan? planned, List.length_pos_iff]
    show _ ↔ (call.anew || !page.records.isEmpty) = true
    rw [Bool.or_eq_true, Bool.not_eq_true', ← Bool.not_eq_true, List.isEmpty_iff, or_comm]
  have change : (Success.of c call plan page log).change c.config =
      .changed c.config.url page.records.length page.offset plan.reset := by
    rw [Success.change, fresh_of_plan? planned, Call.reset_of_plan? planned]
    rfl
  rw [notices, Success.tells, change]
  simp only [changed]
  rfl

end Commit

/-- **One call**: what it tells, and what is new behind it. -/
theorem success_observed (env : Environment σ) (call : Call) (configured : c.config = config) (t : σ) :
    events ((call.tried c).run env t).log = (call.success env c t).flatMap (·.tells config) ∧
      ∀ s ∈ call.success env c t, s.Fetched config := by
  subst configured
  rcases planned : call.plan? c with - | plan
  · obtain rfl := Call.eq_reset planned
    exact ⟨rfl, List.forall_mem_nil _⟩
  obtain ⟨silent, told⟩ := tried_told planned env t
  by_cases committed : ((call.tried c).run env t).value.1 = .committed
  · obtain ⟨earlier, last, page, came, of, commit, told⟩ := told committed
    have success : call.success env c t = [.of c call plan page ((call.tried c).run env t).log] := by
      rw [Call.success, if_pos ⟨Call.fetches_of_plan? planned, committed⟩, commit]
      rfl
    rw [success, told, List.flatMap_singleton]
    refine ⟨notices_eq_tells planned, ?_⟩
    rw [List.forall_mem_singleton]
    refine ⟨?_, plan, planned, earlier, last, page, came, of, (fresh_of_plan? planned).symm, rfl⟩
    rw [carried_of_plan? planned, fresh_of_plan? planned]
    exact records_commit plan page
  · rw [Call.success, if_neg fun both => committed both.2]
    exact ⟨silent committed, List.forall_mem_nil _⟩

/-! ### All calls -/

theorem successes_observed (env : Environment σ) (calls : List Call) (configured : c.config = config) (t : σ) :
    events ((perform calls c).run env t).log = (successes env calls c t).flatMap (·.tells config) ∧
      ∀ s ∈ successes env calls c t, s.Fetched config := by
  induction calls generalizing c t with
  | nil => exact ⟨rfl, List.forall_mem_nil _⟩
  | cons call rest ih =>
    obtain ⟨told, fetched⟩ := success_observed env call configured t
    obtain ⟨toldRest, fetchedRest⟩ := ih ((tried_configured env c call t).trans configured) _
    rw [run_perform_cons rfl rfl, successes, Dialogue.events_append, List.flatMap_append, told, toldRest]
    refine ⟨rfl, ?_⟩
    intro s hs
    rcases List.mem_append.mp hs with here | later
    · exact fetched s here
    · exact fetchedRest s later

/-- **The observers see what is committed.** -/
structure Observed (config : Config) (log : Log Notice) (fetches : List Success) : Prop where
  /-- What is told altogether: of every fetch, first the change, and then the page. -/
  told : events log = fetches.flatMap (·.tells config)
  /-- What the observers of pages are told: of every fetch, one after the other, the page as it is shown. -/
  pages : (events log).filterMap Notice.page? =
    fetches.flatMap fun s => config.extensions.map fun name => (name, config.url, s.view)
  /-- What is told of changes: one for every fetch that has changed something. -/
  changes : (events log).filterMap Notice.change? = (fetches.filter (·.hasChanged)).map (·.change config)
  fetched : ∀ s ∈ fetches, s.Fetched config

/-- **The observers of a collection see exactly the pages that it commits**, whoever answers and whatever is
called: every fetch that succeeds tells that something has changed, if it was to begin anew or something new has
come, and then its page to every observer as the collection shows it now; and nothing else is told. -/
theorem observers_see_commits (env : Environment σ) (config : Config) (calls : List Call) (t : σ) :
    Observed config ((perform calls (new config)).run env t).log (successes env calls (new config) t) := by
  have configured : (new config).config = config := rfl
  obtain ⟨told, fetched⟩ := successes_observed env calls configured t
  refine ⟨told, ?_, ?_, fetched⟩
  · rw [told, List.filterMap_flatMap]
    simp only [Success.pages_tells]
  · rw [told, List.filterMap_flatMap]
    simp only [Success.changes_tells]
    generalize successes env calls (new config) t = fetches
    induction fetches with
    | nil => rfl
    | cons s rest ih =>
      rw [List.flatMap_cons, ih, List.filter_cons]
      split
      · rfl
      · rfl

/-- Three songs, two on a page, one page appended to the other: a call that fails, and an empty page at the end,
which changes nothing but is told to both observers all the same. -/
example :
    let config : Config :=
      { resource := "item", pageLimit := 2, append := true, extensions := ["first", "second"] }
    let rough : Schedule := { Schedule.calm with
      exchange := fun n => if n = 1 then .replyLost (.connection "gone") else .carried }
    let env := rough.environment (Listing.peer (Listing.namedRecords "song" 3)) fun _ => none
    let calls := [.fetch 8 .empty true, .next 8 .empty, .next 8 .empty, .next 8 .empty]
    let told := events ((perform calls (new config)).run env (.start ())).log
    told.filterMap Notice.change? =
      [.changed "item" 2 2 true, .changed "item" 1 3 false] ∧
    (told.filterMap Notice.page?).map (fun told => (told.1, told.2.2.records.length)) =
      [("first", 2), ("second", 2), ("first", 3), ("second", 3), ("first", 3), ("second", 3)] := by
  decide +kernel

end Collection

end Depot
