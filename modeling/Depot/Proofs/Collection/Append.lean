import Depot.Proofs.Collection.Batches

/-!
# Pages that are appended

A collection may append every page to what it shows already.  Over a fixed listing that loses and repeats
nothing as long as it goes on: behind `k` further pages it shows the matches of the first `k + 1` pages
(`append_accumulates`).

It keeps no stack, and its way back is counted as if what it shows were one page.  A page that is reached by
it is appended like any other.  What is shown are the matches in front of the offset (`Seen`), and the way back
begins in front of it, so the first match behind its beginning has been shown before: records are repeated
exactly if a call back has added anything (`none_twice_iff_none_added_back`).
-/

namespace Depot.Collection

open Dialogue (Environment)
open Listing (Serves)

/-- Pages are appended, and have a limit. -/
structure Config.Appending (config : Config) : Prop where
  limited : 0 < config.pageLimit
  appends : config.append = true

theorem Config.Appending.tracksPages {config : Config} (appending : config.Appending) :
    config.tracksPages = false := by
  rw [Config.tracksPages, appending.appends, Bool.not_true, Bool.and_false]

variable {σ : Type} {env : Environment σ} {listing : List Record} {causes : HttpError → Prop}
  {config : Config} {c : Collection} {k patience : Nat} {params : Params} {plan : Plan} {call : Call}
  {calls : List Call} {t : σ}

/-- What a call shows that succeeds inside the listing. -/
theorem tried_commit (serves : Serves env listing c.config.batchLimit causes)
    (planned : call.plan? c = some plan) (inside : plan.start ≤ listing.length)
    (committed : ((call.tried c).run env t).value.1 = .committed) :
    ((call.tried c).run env t).value.2 =
      c.commit plan (pageFrom c.config.accepts c.config.pageLimit listing plan.start) := by
  obtain ⟨patience, tried⟩ := Call.tried_eq_carryOut planned
  have meets : (c.carryOut patience plan).Meets env .any (fun result _ =>
      Carried c listing causes plan (patience ≤ listing.length) result) t := carryOut_meets serves inside
  have carried := (Dialogue.meets_iff.1 meets).2.2
  rw [tried] at committed ⊢
  generalize ((c.carryOut patience plan).run env t).value = result at carried committed ⊢
  cases carried with
  | committed => rfl
  | failed cause => cases committed
  | unfinished => cases committed

/-! ### Going on -/

/-- The matches of the first pages are shown, up to page `k`. -/
structure Accumulated (config : Config) (listing : List Record) (k : Nat) (c : Collection) : Prop where
  configured : c.config = config
  records : c.records = (listing.filter config.accepts).take ((k + 1) * config.pageLimit)
  offset : c.offset = boundary config.accepts config.pageLimit listing (k + 1)
  hasMore : c.hasMore = (page config listing k).hasMore
  stack : c.stack = .empty

/-- **Page `k` is appended** to the matches of the pages before it. -/
theorem accumulated_commit (appending : config.Appending) (configured : c.config = config)
    (begins : plan.start = boundary config.accepts config.pageLimit listing k)
    (before : c.carriedOver plan = (listing.filter config.accepts).take (k * config.pageLimit))
    (empty : plan.reset = true ∨ c.stack = .empty) :
    Accumulated config listing k
      (c.commit plan (pageFrom c.config.accepts c.config.pageLimit listing plan.start)) := by
  subst configured
  rw [begins, pageFrom_boundary appending.limited]
  refine ⟨rfl, ?_, rfl, rfl, ?_⟩
  · rw [records_commit, before, Nat.add_one_mul, List.take_add]
    rfl
  · show (if c.config.tracksPages then _ else if plan.reset then OffsetStack.empty else c.stack) = _
    rw [appending.tracksPages, if_neg Bool.false_ne_true]
    split
    · rfl
    · next kept => exact empty.resolve_left kept

/-- Where there is no next page, all matches are shown. -/
theorem Accumulated.all (accumulated : Accumulated config listing k c) (noMore : c.hasNextPage = false) :
    c.records = listing.filter config.accepts := by
  -- the matches from page `k` on fit on that page, so the pages up to it hold all of them
  have last := records_of_not_hasMore (accumulated.hasMore.symm.trans noMore)
  have few := congrArg List.length last
  rw [page, List.length_take, List.length_drop] at few
  rw [accumulated.records, Nat.add_one_mul]
  apply List.take_of_length_le
  omega

/-- The call goes on from the present offset. -/
def Call.goesOn : Call → Bool
  | fetch _ _ anew => !anew
  | next _ _ => true
  | previous _ _ => false
  | reset => false

/-- The calls that succeed, in their order. -/
def succeeded (env : Environment σ) : List Call → Collection → σ → List Call
  | [], _, _ => []
  | call :: rest, c, t =>
    let result := (call.tried c).run env t
    let others := succeeded env rest result.value.2 result.peer
    if result.value.1 = .committed then call :: others else others

section Accumulated

variable (appending : config.Appending) (serves : Serves env listing config.batchLimit causes)

include appending serves

/-- The first page. -/
theorem accumulated_zero (configured : c.config = config)
    (committed : ((c.fetch patience params true).run env t).value.1 = .committed) :
    Accumulated config listing 0 ((c.fetch patience params true).run env t).value.2 := by
  have start : (c.planFetch params true).start = boundary config.accepts config.pageLimit listing 0 :=
    (boundary_zero _ _).symm
  have planned : (Call.fetch patience params true).plan? c = some (c.planFetch params true) := rfl
  have shown := tried_commit (configured ▸ serves) planned (Nat.zero_le _) committed
  have before : c.carriedOver (c.planFetch params true) =
      (listing.filter config.accepts).take (0 * config.pageLimit) := by
    rw [carriedOver_reset rfl, Nat.zero_mul, List.take_zero]
  have accumulated := accumulated_commit appending configured start before (.inl rfl)
  rwa [← shown] at accumulated

/-- One page more. -/
theorem Accumulated.tried (accumulated : Accumulated config listing k c) (onward : call.goesOn = true)
    (committed : ((call.tried c).run env t).value.1 = .committed) :
    Accumulated config listing (k + 1) ((call.tried c).run env t).value.2 := by
  have configured := accumulated.configured
  obtain ⟨params, planned⟩ : ∃ params, call.plan? c = some (c.planFetch params false) := by
    cases call with
    | fetch patience params anew =>
      cases anew with
      | true => cases onward
      | false => exact ⟨params, rfl⟩
    | next patience params => exact ⟨_, rfl⟩
    | previous patience params => cases onward
    | reset => cases onward
  have start : (c.planFetch params false).start = boundary config.accepts config.pageLimit listing (k + 1) :=
    accumulated.offset
  have shown := tried_commit (configured ▸ serves) planned (start ▸ boundary_le_length _ _ _) committed
  have before : c.carriedOver (c.planFetch params false) =
      (listing.filter config.accepts).take ((k + 1) * config.pageLimit) :=
    (carriedOver_append (configured ▸ appending.appends) rfl).trans accumulated.records
  have further := accumulated_commit appending configured start before (.inr accumulated.stack)
  rwa [← shown] at further

/-- Some pages more: as many as there are calls that succeed. -/
theorem Accumulated.perform (accumulated : Accumulated config listing k c)
    (onward : ∀ call ∈ succeeded env calls c t, call.goesOn = true) :
    Accumulated config listing (k + (succeeded env calls c t).length) ((perform calls c).run env t).value := by
  -- a call that succeeds counts as a page, and any other as nothing
  refine perform_induction env (P := fun calls c t d => ∀ k, Accumulated config listing k c →
    (∀ call ∈ succeeded env calls c t, call.goesOn = true) →
    Accumulated config listing (k + (succeeded env calls c t).length) d) ?_ ?_ ?_ calls c t k accumulated onward
  · exact fun _ _ _ accumulated _ => accumulated
  · intro call rest c t d committed others k accumulated onward
    rw [succeeded] at onward ⊢
    simp only [if_pos committed] at onward ⊢
    have here := accumulated.tried appending serves (onward call List.mem_cons_self) committed
    have there := others (k + 1) here fun call' member => onward call' (List.mem_cons_of_mem call member)
    rwa [Nat.add_right_comm] at there
  · intro call rest c t d uncommitted unchanged others k accumulated onward
    rw [succeeded] at onward ⊢
    simp only [if_neg uncommitted, unchanged] at onward ⊢
    exact others k accumulated onward

end Accumulated

/-- The matches of the first `n` pages are shown; where there is no next page, these are all matches. -/
structure ShowsFirst (config : Config) (listing : List Record) (n : Nat) (c : Collection) : Prop where
  records : c.records = (listing.filter config.accepts).take (n * config.pageLimit)
  all : c.hasNextPage = false → c.records = listing.filter config.accepts
  stack : c.stack = .empty

theorem Accumulated.showsFirst (accumulated : Accumulated config listing k c) :
    ShowsFirst config listing (k + 1) c :=
  ⟨accumulated.records, accumulated.all, accumulated.stack⟩

/-- **Appending pages loses and repeats nothing.**  From the first page on, and as long as no call succeeds but
those that go on, what is shown are the matches of as many further pages as calls have succeeded, whatever
fails on the way; and who begins anew sees the first page alone. -/
theorem append_accumulates (appending : config.Appending)
    (serves : Serves env listing config.batchLimit causes) (c : Collection) (configured : c.config = config)
    (patience : Nat) (params : Params) (calls : List Call) (t : σ) :
    let first := (c.fetch patience params true).run env t
    let now := ((perform calls first.value.2).run env first.peer).value
    let further := succeeded env calls first.value.2 first.peer
    first.value.1 = .committed → (∀ call ∈ further, call.goesOn = true) →
      ShowsFirst config listing (further.length + 1) now ∧
      ∀ patience' params' u, let again := (now.fetch patience' params' true).run env u
        again.value.1 = .committed → ShowsFirst config listing 1 again.value.2 := by
  intro first now further committed onward
  have accumulated : Accumulated config listing (0 + further.length) now :=
    (accumulated_zero appending serves configured committed).perform appending serves onward
  rw [Nat.zero_add] at accumulated
  refine ⟨accumulated.showsFirst, ?_⟩
  intro patience' params' u again anew
  exact (accumulated_zero appending serves accumulated.configured anew).showsFirst

/-- Seven songs, of which the second one is not shown, two on a page: a call that fails, two that go on, and two
behind the last page, of which one fails. -/
theorem append_accumulates_songs :
    let config : Config :=
      { resource := "item", pageLimit := 2, append := true, filter := some (·.name? != some "song1") }
    let songs := Listing.namedRecords "song" 7
    let rough : Schedule := { Schedule.calm with
      exchange := fun n => if n = 2 ∨ n = 5 then .replyLost (.connection "gone") else .carried }
    let env := rough.environment (Listing.peer songs) fun _ => none
    let calls := [.next 8 .empty, .next 8 .empty, .fetch 8 .empty false, .previous 8 .empty, .next 8 .empty]
    let first := ((new config).fetch 8 .empty true).run env (.start ())
    let now := ((perform calls first.value.2).run env first.peer).value
    now.hasNextPage = false ∧ ShowsFirst config songs 4 now := by
  intro config songs rough env calls first now
  have appending : config.Appending := ⟨by decide, rfl⟩
  have deep : ∀ r ∈ songs, r.toJson.depth < Json.Document.depthLimit := by decide +kernel
  have serves : Serves env songs config.batchLimit (fun _ => True) :=
    (Listing.serves_over rough _ deep (by decide +kernel)).mono fun _ _ => trivial
  have committed : first.value.1 = .committed := by decide +kernel
  have further : succeeded env calls first.value.2 first.peer =
      [.next 8 .empty, .fetch 8 .empty false, .next 8 .empty] := by decide +kernel
  have onward : ∀ call ∈ succeeded env calls first.value.2 first.peer, call.goesOn = true := by
    rw [further]
    decide
  obtain ⟨shows, -⟩ :=
    append_accumulates appending serves (new config) rfl 8 .empty calls (.start ()) committed onward
  rw [further] at shows
  exact ⟨by decide +kernel, shows⟩

/-! ### Going back -/

/-- This raw offset is the end of the listing, or right behind a match. -/
def BehindMatch (accepts : Record → Bool) (listing : List Record) (offset : Nat) : Prop :=
  offset = listing.length ∨ ∃ i r, listing[i]? = some r ∧ accepts r = true ∧ offset = i + 1

section PageFrom

variable {accepts : Record → Bool} {limit start offset : Nat}

theorem BehindMatch.inside (behind : BehindMatch accepts listing offset) : offset ≤ listing.length := by
  rcases behind with rfl | ⟨i, r, found, -, rfl⟩
  · exact Nat.le_refl _
  · exact (List.getElem?_eq_some_iff.mp found).1

/-- If there is no match between an earlier offset and this one, it is the end of the listing. -/
theorem BehindMatch.drop_eq_nil (behind : BehindMatch accepts listing offset) (before : start ≤ offset - 1)
    (nothing : ((listing.take offset).drop start).filter accepts = []) : listing.drop offset = [] := by
  rcases behind with rfl | ⟨i, r, found, matching, rfl⟩
  · exact List.drop_length
  · rw [Nat.add_sub_cancel] at before
    have place : ((listing.take (i + 1)).drop start)[i - start]? = some r := by
      rw [List.getElem?_drop, Nat.add_sub_cancel' before, List.getElem?_take_of_lt (Nat.lt_succ_self i), found]
    have member := List.mem_filter.mpr ⟨List.mem_of_getElem? place, matching⟩
    rw [nothing] at member
    cases member

variable (limited : 0 < limit)

include limited

theorem records_pageFrom : (pageFrom accepts limit listing start).records =
    ((listing.drop start).filter accepts).take limit := by
  rw [pageFrom]
  simp only [if_neg (Nat.ne_of_gt limited)]

theorem offset_pageFrom : (pageFrom accepts limit listing start).offset =
    start + examined accepts limit (listing.drop start) := by
  rw [pageFrom]
  simp only [if_neg (Nat.ne_of_gt limited)]

/-- Where a page ends. -/
theorem behindMatch_pageFrom (inside : start ≤ listing.length) :
    BehindMatch accepts listing (pageFrom accepts limit listing start).offset := by
  rw [offset_pageFrom limited]
  rcases Nat.lt_or_ge ((listing.drop start).filter accepts).length limit with few | enough
  · rw [examined_of_length_lt few, List.length_drop, Nat.add_sub_cancel' inside]
    exact .inl rfl
  · obtain ⟨n, rfl⟩ : ∃ n, limit = n + 1 := ⟨_, (Nat.succ_pred_eq_of_pos limited).symm⟩
    obtain ⟨i, place⟩ := exists_matchAt enough
    obtain ⟨r, found, matching⟩ := place.found
    rw [List.getElem?_drop] at found
    exact .inr ⟨start + i, r, found, matching, by rw [place.examined_eq, Nat.add_assoc]⟩

/-- The matches in front of a page and those of the page are those in front of its end. -/
theorem filter_take_append_pageFrom :
    (listing.take start).filter accepts ++ (pageFrom accepts limit listing start).records =
      (listing.take (pageFrom accepts limit listing start).offset).filter accepts := by
  rw [records_pageFrom limited, offset_pageFrom limited, ← filter_take_examined, List.take_add,
    List.filter_append]

/-- A page with no match has none behind its beginning, so the matches in front of its end are those in front
of any offset behind its beginning. -/
theorem filter_take_pageFrom_of_empty (before : start ≤ offset)
    (nothing : (pageFrom accepts limit listing start).records = []) :
    (listing.take (pageFrom accepts limit listing start).offset).filter accepts =
      (listing.take offset).filter accepts := by
  have none_left : (listing.drop start).filter accepts = [] := by
    rw [records_pageFrom limited, List.take_eq_nil_iff] at nothing
    exact nothing.resolve_left (Nat.ne_of_gt limited)
  have between : ((listing.drop start).take (offset - start)).filter accepts = [] := by
    have part := (List.take_sublist (offset - start) (listing.drop start)).filter accepts
    rw [none_left] at part
    exact List.eq_nil_of_sublist_nil part
  calc (listing.take (pageFrom accepts limit listing start).offset).filter accepts
      = (listing.take start).filter accepts := by
        rw [← filter_take_append_pageFrom limited, nothing, List.append_nil]
    _ = (listing.take (start + (offset - start))).filter accepts := by
        rw [List.take_add, List.filter_append, between, List.append_nil]
    _ = (listing.take offset).filter accepts := by rw [Nat.add_sub_cancel' before]

/-- **A page that begins in front of such an offset** has a record that is in front of it, unless it has none. -/
theorem exists_mem_pageFrom (behind : BehindMatch accepts listing offset) (before : start ≤ offset - 1)
    (something : (pageFrom accepts limit listing start).records ≠ []) :
    ∃ r ∈ (pageFrom accepts limit listing start).records, r ∈ (listing.take offset).filter accepts := by
  have records : (pageFrom accepts limit listing start).records = _ := records_pageFrom limited
  have split : listing.drop start = (listing.take offset).drop start ++ listing.drop offset := by
    have enough : start ≤ (listing.take offset).length := by
      rw [List.length_take, Nat.min_eq_left behind.inside]
      exact Nat.le_trans before (Nat.sub_le _ _)
    rw [← List.drop_append_of_le_length enough, List.take_append_drop]
  rw [split, List.filter_append] at records
  rcases front : ((listing.take offset).drop start).filter accepts with - | ⟨r, others⟩
  · -- between the two there is no match, so there is nothing behind the offset either
    rw [front, behind.drop_eq_nil before front, List.filter_nil, List.append_nil, List.take_nil] at records
    exact absurd records something
  · obtain ⟨n, rfl⟩ : ∃ n, limit = n + 1 := ⟨_, (Nat.succ_pred_eq_of_pos limited).symm⟩
    rw [front, List.cons_append, List.take_succ_cons] at records
    refine ⟨r, records ▸ List.mem_cons_self, ?_⟩
    have member : r ∈ ((listing.take offset).drop start).filter accepts := front ▸ List.mem_cons_self
    exact ((List.drop_sublist start _).filter accepts).subset member

end PageFrom

/-! ### What comes twice -/

/-- No identifier comes twice among these records. -/
def Distinct (records : List Record) : Prop := (records.map (·.get? "_id")).Nodup

instance (records : List Record) : Decidable (Distinct records) :=
  inferInstanceAs (Decidable (records.map _).Nodup)

theorem Distinct.sublist {some_of all : List Record} (distinct : Distinct all) (part : some_of.Sublist all) :
    Distinct some_of := List.Nodup.sublist (part.map _) distinct

/-- What is appended is not there yet. -/
theorem Distinct.not_mem {front back : List Record} (distinct : Distinct (front ++ back)) {r : Record}
    (member : r ∈ front) : r ∉ back := by
  rw [Distinct, List.map_append, List.nodup_append] at distinct
  intro again
  exact distinct.2.2 _ (List.mem_map_of_mem member) _ (List.mem_map_of_mem again) rfl

/-- No record is shown twice. -/
def NoneTwice (c : Collection) : Prop := Distinct c.records

instance (c : Collection) : Decidable c.NoneTwice := inferInstanceAs (Decidable (Distinct c.records))

/-! ### Calls that are offered -/

/-- The call was offered: there is a page to go to. -/
def Call.isOffered (c : Collection) : Call → Bool
  | next _ _ => c.hasNextPage
  | previous _ _ => c.hasPreviousPage
  | fetch _ _ _ => false
  | reset => false

/-- Every call was offered when it was made. -/
def Offered (env : Environment σ) : List Call → Collection → σ → Prop
  | [], _, _ => True
  | call :: rest, c, t =>
    let result := (call.tried c).run env t
    call.isOffered c = true ∧ Offered env rest result.value.2 result.peer

instance decidableOffered (env : Environment σ) :
    (calls : List Call) → (c : Collection) → (t : σ) → Decidable (Offered env calls c t)
  | [], _, _ => .isTrue trivial
  | call :: rest, c, t =>
    have := decidableOffered env rest ((call.tried c).run env t).value.2 ((call.tried c).run env t).peer
    instDecidableAnd

/-- The call goes back. -/
def Call.isBack : Call → Bool
  | previous _ _ => true
  | _ => false

/-- Some call back has added something to what is shown. -/
def AddedBack (env : Environment σ) : List Call → Collection → σ → Prop
  | [], _, _ => False
  | call :: rest, c, t =>
    let result := (call.tried c).run env t
    call.isBack = true ∧ result.value.2.records ≠ c.records ∨ AddedBack env rest result.value.2 result.peer

instance decidableAddedBack (env : Environment σ) :
    (calls : List Call) → (c : Collection) → (t : σ) → Decidable (AddedBack env calls c t)
  | [], _, _ => .isFalse id
  | call :: rest, c, t =>
    have := decidableAddedBack env rest ((call.tried c).run env t).value.2 ((call.tried c).run env t).peer
    instDecidableOr

/-- An offered call goes on or back, with the parameters of the last page and new ones. -/
theorem plan_of_isOffered (offered : call.isOffered c = true) : ∃ params,
    call.isBack = false ∧ call.plan? c = some (c.planNext params) ∨
      call.isBack = true ∧ c.hasPreviousPage = true ∧ call.plan? c = some (c.planPrevious params) := by
  cases call with
  | next patience params => exact ⟨params, .inl ⟨rfl, rfl⟩⟩
  | previous patience params => exact ⟨params, .inr ⟨rfl, offered, rfl⟩⟩
  | fetch => cases offered
  | reset => cases offered

section Offered

variable (appending : config.Appending)

include appending

/-- The way back is counted from the offset, and begins in front of it. -/
theorem planPrevious_eq (configured : c.config = config) (params : Params) : c.planPrevious params =
    ⟨c.offset - (c.records.length + config.pageLimit), c.stack, c.params.override params, false⟩ := by
  rw [planPrevious, configured, appending.tracksPages, if_neg Bool.false_ne_true]

/-- Whoever answers, an offered call only adds to what is shown. -/
theorem tried_adds (env : Environment σ) (configured : c.config = config) (offered : call.isOffered c = true)
    (t : σ) :
    c.records <+: ((call.tried c).run env t).value.2.records ∧
      ((call.tried c).run env t).value.2.config = config := by
  by_cases committed : ((call.tried c).run env t).value.1 = .committed
  · obtain ⟨plan, planned, further⟩ : ∃ plan, call.plan? c = some plan ∧ plan.reset = false := by
      obtain ⟨params, ⟨-, planned⟩ | ⟨-, -, planned⟩⟩ := plan_of_isOffered offered
      · exact ⟨_, planned, rfl⟩
      · exact ⟨_, planned, by rw [planPrevious_eq appending configured]⟩
    obtain ⟨-, earlier, last, page, -, -, commit⟩ := tried_pageOf env t planned committed
    rw [commit, records_commit, carriedOver_append (configured ▸ appending.appends) further]
    exact ⟨List.prefix_append _ _, configured⟩
  · rw [tried_unchanged env c call t committed]
    exact ⟨List.prefix_rfl, configured⟩

/-- What is shown twice stays so. -/
theorem noneTwice_of_perform (configured : c.config = config) (offered : Offered env calls c t)
    (noneTwice : ((perform calls c).run env t).value.NoneTwice) : c.NoneTwice := by
  -- what is shown at first is a part of what is shown in the end
  induction calls generalizing c t with
  | nil => exact noneTwice
  | cons call rest ih =>
    obtain ⟨here, later⟩ := offered
    rw [run_perform_cons rfl rfl] at noneTwice
    obtain ⟨added, configured'⟩ := tried_adds appending env configured here t
    exact (ih configured' later noneTwice).sublist added.sublist

end Offered

/-- **What is shown are the matches in front of the offset.** -/
structure Seen (config : Config) (listing : List Record) (c : Collection) : Prop where
  configured : c.config = config
  records : c.records = (listing.take c.offset).filter config.accepts
  behind : BehindMatch config.accepts listing c.offset

theorem Seen.noneTwice (seen : Seen config listing c) (distinct : Distinct listing) : c.NoneTwice := by
  rw [NoneTwice, seen.records]
  exact distinct.sublist ((List.filter_sublist).trans (List.take_sublist _ _))

/-- Without a filter all is shown that is in front of the offset, so no page is offered before it. -/
theorem Seen.hasPreviousPage_eq_false (seen : Seen config listing c) (appending : config.Appending)
    (unfiltered : config.filter = none) : c.hasPreviousPage = false := by
  have all : (listing.take c.offset).filter config.accepts = listing.take c.offset :=
    List.filter_eq_self.mpr fun r _ => accepts_of_unfiltered unfiltered r
  have length : c.records.length = c.offset := by
    rw [seen.records, all, List.length_take, Nat.min_eq_left seen.behind.inside]
  rw [hasPreviousPage, seen.configured, appending.tracksPages, if_neg Bool.false_ne_true, length]
  exact decide_eq_false (Nat.lt_irrefl _)

section Seen

variable (appending : config.Appending) (serves : Serves env listing config.batchLimit causes)

include appending serves

/-- **A page that begins behind what is shown** shows more of the matches. -/
theorem seen_tried (configured : c.config = config) (planned : call.plan? c = some plan)
    (inside : plan.start ≤ listing.length)
    (before : c.carriedOver plan = (listing.take plan.start).filter config.accepts)
    (committed : ((call.tried c).run env t).value.1 = .committed) :
    Seen config listing ((call.tried c).run env t).value.2 := by
  have shown := tried_commit (configured ▸ serves) planned inside committed
  refine ⟨?_, ?_, ?_⟩
  · rw [shown]
    exact configured
  · rw [shown, records_commit, before, configured]
    exact filter_take_append_pageFrom appending.limited
  · rw [shown, configured]
    exact behindMatch_pageFrom appending.limited inside

/-- **A page that was gone back for** adds nothing, or something that is shown already. -/
theorem Seen.tried_previous (seen : Seen config listing c)
    (planned : call.plan? c = some (c.planPrevious params))
    (committed : ((call.tried c).run env t).value.1 = .committed) :
    let after := ((call.tried c).run env t).value.2
    after.records = c.records ∧ Seen config listing after ∨
      after.records ≠ c.records ∧ ¬ after.NoneTwice := by
  intro after
  obtain ⟨configured, records, behind⟩ := seen
  let start := (c.planPrevious params).start
  let page := pageFrom config.accepts config.pageLimit listing start
  have plan := planPrevious_eq appending configured params
  have before : start ≤ c.offset - 1 := by
    have begins : start = c.offset - (c.records.length + config.pageLimit) := congrArg Plan.start plan
    have limited := appending.limited
    omega
  have upto : start ≤ c.offset := Nat.le_trans before (Nat.sub_le _ _)
  have inside : start ≤ listing.length := Nat.le_trans upto behind.inside
  have shown : after = c.commit (c.planPrevious params) page := by
    have shown := tried_commit (configured ▸ serves) planned inside committed
    rwa [configured] at shown
  have all : after.records = c.records ++ page.records := by
    rw [shown, records_commit, carriedOver_append (configured ▸ appending.appends) (by rw [plan])]
  by_cases nothing : page.records = []
  · rw [nothing, List.append_nil] at all
    refine .inl ⟨all, ?_, ?_, ?_⟩
    · rw [shown]
      exact configured
    · rw [all, records, shown]
      exact (filter_take_pageFrom_of_empty appending.limited upto nothing).symm
    · rw [shown]
      exact behindMatch_pageFrom appending.limited inside
  · -- the page begins in front of the offset, and what is in front of the offset is shown
    obtain ⟨r, again, already⟩ := exists_mem_pageFrom appending.limited behind before nothing
    refine .inr ⟨?_, ?_⟩
    · rw [all]
      exact fun same => nothing (List.append_right_eq_self.mp same)
    · intro noneTwice
      rw [NoneTwice, all] at noneTwice
      exact noneTwice.not_mem (records ▸ already) again

/-- **An offered call** shows more of the matches, or the same ones, unless it goes back and adds something: then
something is shown twice. -/
theorem Seen.tried (seen : Seen config listing c) (offered : call.isOffered c = true) :
    let after := ((call.tried c).run env t).value.2
    Seen config listing after ∧ ¬ (call.isBack = true ∧ after.records ≠ c.records) ∨
      (call.isBack = true ∧ after.records ≠ c.records) ∧ ¬ after.NoneTwice := by
  intro after
  by_cases committed : ((call.tried c).run env t).value.1 = .committed
  · obtain ⟨params, ⟨onward, planned⟩ | ⟨back, -, planned⟩⟩ := plan_of_isOffered offered
    · have before : c.carriedOver (c.planNext params) = c.records :=
        carriedOver_append (seen.configured ▸ appending.appends) rfl
      refine .inl ⟨seen_tried appending serves seen.configured planned seen.behind.inside
        (before.trans seen.records) committed, ?_⟩
      rw [onward]
      exact fun added => Bool.false_ne_true added.1
    · rcases seen.tried_previous appending serves planned committed with ⟨same, seen'⟩ | ⟨more, twice⟩
      · exact .inl ⟨seen', fun added => added.2 same⟩
      · exact .inr ⟨⟨back, more⟩, twice⟩
  · have same : after = c := tried_unchanged env c call t committed
    rw [same]
    exact .inl ⟨seen, fun added => added.2 rfl⟩

/-- The first page. -/
theorem seen_first (configured : c.config = config)
    (committed : ((c.fetch patience params true).run env t).value.1 = .committed) :
    Seen config listing ((c.fetch patience params true).run env t).value.2 := by
  have planned : (Call.fetch patience params true).plan? c = some (c.planFetch params true) := rfl
  exact seen_tried appending serves configured planned (Nat.zero_le _) (carriedOver_reset rfl) committed

/-- As long as no call back adds anything, the matches in front of the offset are shown. -/
theorem Seen.of_not_addedBack (seen : Seen config listing c) (offered : Offered env calls c t)
    (nothing : ¬ AddedBack env calls c t) : Seen config listing ((perform calls c).run env t).value := by
  induction calls generalizing c t with
  | nil => exact seen
  | cons call rest ih =>
    obtain ⟨here, later⟩ := offered
    rw [AddedBack, not_or] at nothing
    rw [run_perform_cons rfl rfl]
    rcases seen.tried appending serves here with ⟨seen', -⟩ | ⟨added, -⟩
    · exact ih seen' later nothing.2
    · exact absurd added nothing.1

/-- Once a call back has added something, something is shown twice. -/
theorem Seen.not_noneTwice_of_addedBack (seen : Seen config listing c) (offered : Offered env calls c t)
    (added : AddedBack env calls c t) : ¬ ((perform calls c).run env t).value.NoneTwice := by
  induction calls generalizing c t with
  | nil => cases added
  | cons call rest ih =>
    obtain ⟨here, later⟩ := offered
    rw [run_perform_cons rfl rfl]
    rcases seen.tried appending serves here with ⟨seen', kept⟩ | ⟨-, twice⟩
    · exact ih seen' later (added.resolve_left kept)
    · have configured := (tried_adds appending env seen.configured here t).2
      exact fun noneTwice => twice (noneTwice_of_perform appending configured later noneTwice)

/-- Without a filter no call back is ever offered, so none adds anything. -/
theorem Seen.not_addedBack_of_unfiltered (seen : Seen config listing c) (unfiltered : config.filter = none)
    (offered : Offered env calls c t) : ¬ AddedBack env calls c t := by
  induction calls generalizing c t with
  | nil => exact not_false
  | cons call rest ih =>
    obtain ⟨here, later⟩ := offered
    have onward : call.isBack = false := by
      obtain ⟨params, ⟨onward, -⟩ | ⟨-, offered, -⟩⟩ := plan_of_isOffered here
      · exact onward
      · rw [seen.hasPreviousPage_eq_false appending unfiltered] at offered
        cases offered
    rcases seen.tried appending serves here with ⟨seen', kept⟩ | ⟨⟨back, -⟩, -⟩
    · exact not_or_intro kept (ih seen' later)
    · rw [onward] at back
      cases back

end Seen

/-- **Appended pages repeat something exactly if a call back adds something.**  From the first page on, and as
long as only calls are made that are offered, no record of a listing without repetitions is shown twice unless
some call back has added to what is shown; until then the matches in front of the offset are shown, and without
a filter this is always so. -/
theorem none_twice_iff_none_added_back (appending : config.Appending)
    (serves : Serves env listing config.batchLimit causes) (distinct : Distinct listing) (c : Collection)
    (configured : c.config = config) (patience : Nat) (params : Params) (calls : List Call) (t : σ) :
    let first := (c.fetch patience params true).run env t
    let now := ((perform calls first.value.2).run env first.peer).value
    first.value.1 = .committed → Offered env calls first.value.2 first.peer →
      (now.NoneTwice ↔ ¬ AddedBack env calls first.value.2 first.peer) ∧
      (¬ AddedBack env calls first.value.2 first.peer → Seen config listing now) ∧
      (config.filter = none → now.NoneTwice ∧ Seen config listing now) := by
  intro first now committed offered
  have seen := seen_first appending serves configured committed
  have until_then : ¬ AddedBack env calls first.value.2 first.peer → Seen config listing now :=
    seen.of_not_addedBack appending serves offered
  refine ⟨⟨?_, ?_⟩, until_then, ?_⟩
  · exact fun noneTwice added => seen.not_noneTwice_of_addedBack appending serves offered added noneTwice
  · exact fun nothing => (until_then nothing).noneTwice distinct
  · intro unfiltered
    have always := until_then (seen.not_addedBack_of_unfiltered appending serves unfiltered offered)
    exact ⟨always.noneTwice distinct, always⟩

/-- Five songs, of which only the first one is shown, one on a page: the second page is empty and ends with the
listing, and the page that is gone back for from there is empty too.  Without the filter, two pages more. -/
theorem none_twice_iff_none_added_back_songs :
    let config : Config :=
      { resource := "item", pageLimit := 1, append := true, filter := some (·.name? == some "song0") }
    let plain : Config := { config with filter := none }
    let songs := Listing.namedRecords "song" 5
    let env := Schedule.calm.environment (Listing.peer songs) fun _ => none
    let first (config : Config) := ((new config).fetch 8 .empty true).run env (.start ())
    let now (config : Config) (calls : List Call) :=
      ((perform calls (first config).value.2).run env (first config).peer).value
    (now config [.next 8 .empty, .previous 8 .empty]).NoneTwice ∧
      (now plain [.next 8 .empty, .next 8 .empty]).NoneTwice := by
  intro config plain songs env first now
  have appending : config.Appending := ⟨by decide, rfl⟩
  have appending' : plain.Appending := ⟨by decide, rfl⟩
  have deep : ∀ r ∈ songs, r.toJson.depth < Json.Document.depthLimit := by decide +kernel
  have serves : Serves env songs config.batchLimit (fun _ => False) :=
    Listing.serves_calm _ deep (by decide +kernel)
  have distinct : Distinct songs := by decide +kernel
  constructor
  · have committed : (first config).value.1 = .committed := by decide +kernel
    have offered : Offered env [.next 8 .empty, .previous 8 .empty] (first config).value.2
      (first config).peer := by decide +kernel
    have nothing : ¬ AddedBack env [.next 8 .empty, .previous 8 .empty] (first config).value.2
      (first config).peer := by decide +kernel
    exact (none_twice_iff_none_added_back appending serves distinct (new config) rfl 8 .empty _ (.start ())
      committed offered).1.mpr nothing
  · have committed : (first plain).value.1 = .committed := by decide +kernel
    have offered : Offered env [.next 8 .empty, .next 8 .empty] (first plain).value.2 (first plain).peer := by
      decide +kernel
    exact ((none_twice_iff_none_added_back appending' serves distinct (new plain) rfl 8 .empty _ (.start ())
      committed offered).2.2 rfl).1

/-- Two songs, of which only the second one is shown, one on a page: a page is offered before the only one there
is, since the first song has been passed over, and it is the same page again. -/
theorem none_twice_fails_going_back :
    let config : Config :=
      { resource := "item", pageLimit := 1, append := true, filter := some (·.name? == some "song1") }
    let songs := Listing.namedRecords "song" 2
    let env := Schedule.calm.environment (Listing.peer songs) fun _ => none
    let first := ((new config).fetch 8 .empty true).run env (.start ())
    let back := (first.value.2.fetchPrevious 8 .empty).run env first.peer
    Distinct songs ∧ first.value.1 = .committed ∧ first.value.2.hasPreviousPage = true ∧
      back.value.1 = .committed ∧ back.value.2.records.map (·.name?) = [some "song1", some "song1"] ∧
      ¬ back.value.2.NoneTwice := by
  decide +kernel

end Depot.Collection
