import Depot.Proofs.Collection.Batches

/-!
# Back and forth through a listing without a filter

A collection without a filter keeps no stack, and finds its way by counting.  What it shows is always a
window of the listing, the records from some raw offset on and no more than a page of them (`WindowAt`), and
every call moves the window: forward by a page but not past the end, backward by a page but not before the
beginning, or to the beginning.

From the beginning on, and as long as nobody goes on where there is no next page, the window begins at a whole
number of pages, and then everything that is shown has a closed form (`unfiltered_pages`).  Behind the last
page, the way back is a whole page long although the page that was left may be shorter, so it leads to the page
that was left only if that was full, or the first one (`forward_and_back`).
-/

namespace Depot.Collection

open Dialogue (Environment requests)
open Listing (Serves)

/-- A listing is shown as it is, one page after the other. -/
structure Config.Plain (config : Config) : Prop where
  limited : 0 < config.pageLimit
  single : config.append = false
  unfiltered : config.filter = none

namespace Config.Plain

variable {config : Config} (plain : config.Plain)

include plain

theorem tracksPages : config.tracksPages = false := by
  rw [Config.tracksPages, plain.unfiltered]
  rfl

theorem filter_accepts (records : List Record) : records.filter config.accepts = records :=
  List.filter_eq_self.mpr fun r _ => accepts_of_unfiltered plain.unfiltered r

/-- Without a filter, a page ends a whole page behind its beginning, or with the listing. -/
theorem pageFrom_eq {listing : List Record} {start : Nat} (inside : start ≤ listing.length) :
    pageFrom config.accepts config.pageLimit listing start =
      { records := (listing.drop start).take config.pageLimit
        offset := min (start + config.pageLimit) listing.length
        hasMore := decide (start + config.pageLimit < listing.length) } := by
  have all : ∀ r ∈ listing.drop start, config.accepts r = true :=
    fun r _ => accepts_of_unfiltered plain.unfiltered r
  have offset : start + min config.pageLimit (listing.length - start) =
      min (start + config.pageLimit) listing.length := by omega
  have more : decide (config.pageLimit < listing.length - start) =
      decide (start + config.pageLimit < listing.length) := decide_eq_decide.mpr (by omega)
  rw [pageFrom]
  simp only [if_neg (Nat.ne_of_gt plain.limited)]
  rw [plain.filter_accepts, examined_all all, moreBehind_all plain.limited all, List.length_drop, offset, more]

/-- Whatever the first batch is, it completes a page. -/
theorem absorb_first (start : Nat) (batch : List Record) :
    ∃ page, (Scan.start start).absorb config.pageLimit config.accepts batch = .complete page := by
  simp only [Scan.absorb, plain.filter_accepts, Scan.start, List.length_nil, Nat.zero_add]
  by_cases longer : config.pageLimit < batch.length
  · -- one record too many is one more than a page
    have full : config.pageLimit ≤ (batch.take config.pageLimit).length := by
      rw [List.length_take]
      omega
    simp only [plain.limited, longer, and_self, decide_true, if_true, full]
    exact ⟨_, rfl⟩
  · simp only [longer, and_false, decide_false, Bool.false_eq_true, if_false]
    split
    · exact ⟨_, rfl⟩
    · exact ⟨_, rfl⟩

end Config.Plain

/-! ### Windows -/

/-- What is shown is the page of the listing that begins at this raw offset. -/
structure WindowAt (config : Config) (listing : List Record) (start : Nat) (c : Collection) : Prop where
  configured : c.config = config
  inside : start ≤ listing.length
  records : c.records = (listing.drop start).take config.pageLimit
  offset : c.offset = min (start + config.pageLimit) listing.length
  hasMore : c.hasMore = decide (start + config.pageLimit < listing.length)
  stack : c.stack = .empty

variable {σ : Type} {env : Environment σ} {listing : List Record} {causes : HttpError → Prop}
  {config : Config} {c d : Collection} {start start' k patience : Nat} {plan : Plan} {t : σ}

namespace WindowAt

variable (window : WindowAt config listing start c)

include window

theorem length_records : c.records.length = min config.pageLimit (listing.length - start) := by
  rw [window.records, List.length_take, List.length_drop]

/-- Where the window begins can be seen from what is shown. -/
theorem start_eq : start = c.offset - c.records.length := by
  have inside := window.inside
  rw [window.length_records, window.offset]
  omega

theorem start_planNext (params : Params) :
    (c.planNext params).start = min (start + config.pageLimit) listing.length := window.offset

variable (plain : config.Plain)

include plain

theorem hasPreviousPage_eq : c.hasPreviousPage = decide (0 < start) := by
  have inside := window.inside
  have limited := plain.limited
  rw [hasPreviousPage, window.configured, plain.tracksPages, if_neg Bool.false_ne_true, window.length_records,
    window.offset]
  exact decide_eq_decide.mpr (by omega)

/-- **The windows at two offsets look the same** only if the offsets are the same. -/
theorem window_eq_iff (window' : WindowAt config listing start' d) :
    d.window = c.window ↔ start' = start := by
  constructor
  · intro same
    have records : d.records = c.records := congrArg PageWindow.records same
    have offset : d.offset = c.offset := congrArg PageWindow.offset same
    rw [window.start_eq, window'.start_eq, records, offset]
  · rintro rfl
    have records := window'.records.trans window.records.symm
    have offset := window'.offset.trans window.offset.symm
    have configured := window'.configured.trans window.configured.symm
    have number : d.pageNum = c.pageNum := by
      rw [pageNum, pageNum, configured, window.configured, plain.tracksPages, if_neg Bool.false_ne_true,
        if_neg Bool.false_ne_true, records, offset]
    rw [Collection.window, Collection.window, records, offset, number, hasNextPage, hasNextPage,
      window'.hasMore, window.hasMore, window'.hasPreviousPage_eq plain, window.hasPreviousPage_eq plain]

/-- What is shown before the offset is taken off together with the page before it. -/
theorem start_planPrevious (params : Params) : (c.planPrevious params).start = start - config.pageLimit := by
  have inside := window.inside
  rw [planPrevious, window.configured, plain.tracksPages, if_neg Bool.false_ne_true]
  show c.offset - (c.records.length + config.pageLimit) = _
  rw [window.offset, window.length_records]
  omega

end WindowAt

/-- **A plan that is committed** shows the window that it begins at. -/
theorem windowAt_commit (plain : config.Plain) (configured : c.config = config)
    (inside : plan.start ≤ listing.length) (empty : plan.reset = true ∨ c.stack = .empty) :
    WindowAt config listing plan.start
      (c.commit plan (pageFrom c.config.accepts c.config.pageLimit listing plan.start)) := by
  subst configured
  have shows := shows_commit plain.single plan (pageFrom c.config.accepts c.config.pageLimit listing plan.start)
  rw [plain.pageFrom_eq inside] at shows ⊢
  refine ⟨rfl, inside, shows.records, shows.offset, shows.hasMore, ?_⟩
  show (if c.config.tracksPages then _ else if plan.reset then OffsetStack.empty else c.stack) = _
  rw [plain.tracksPages, if_neg Bool.false_ne_true]
  split
  · rfl
  · next kept => exact empty.resolve_left kept

/-! ### One call -/

/-- How a call may end that is to show the window at some offset: it does, or the collection is as it was. -/
inductive Moved (config : Config) (listing : List Record) (start : Nat) (c : Collection) :
    Fetched × Collection → Prop where
  | shown {d : Collection} (window : WindowAt config listing start d) :
      Moved config listing start c (.committed, d)
  | kept {outcome : Fetched} (uncommitted : outcome ≠ .committed) : Moved config listing start c (outcome, c)

theorem carryOut_moved (plain : config.Plain) (serves : Serves env listing config.batchLimit causes)
    (configured : c.config = config) (begins : plan.start = start) (inside : start ≤ listing.length)
    (empty : plan.reset = true ∨ c.stack = .empty) :
    Moved config listing start c ((c.carryOut patience plan).run env t).value := by
  subst begins
  rw [← configured] at serves
  have meets : (c.carryOut patience plan).Meets env .any (fun result _ =>
      Carried c listing causes plan (patience ≤ listing.length) result) t := carryOut_meets serves inside
  have carried := (Dialogue.meets_iff.1 meets).2.2
  generalize ((c.carryOut patience plan).run env t).value = result at carried
  cases carried with
  | committed => exact .shown (windowAt_commit plain configured inside empty)
  | failed cause => exact .kept (by simp)
  | unfinished => exact .kept (by simp)

/-- Where the window at `start` is moved by a call. -/
def Call.leads (limit count start : Nat) : Call → Nat
  | fetch _ _ anew => if anew then 0 else min (start + limit) count
  | next _ _ => min (start + limit) count
  | previous _ _ => start - limit
  | reset => 0

/-- **A call moves the window.** -/
theorem WindowAt.tried_moved (window : WindowAt config listing start c) (plain : config.Plain)
    (serves : Serves env listing config.batchLimit causes) (call : Call) (fetches : call ≠ .reset) :
    Moved config listing (call.leads config.pageLimit listing.length start) c ((call.tried c).run env t).value := by
  have inside := window.inside
  have onward : min (start + config.pageLimit) listing.length ≤ listing.length := Nat.min_le_right _ _
  cases call with
  | fetch patience params anew =>
    cases anew with
    | true => exact carryOut_moved plain serves window.configured rfl (Nat.zero_le _) (.inl rfl)
    | false => exact carryOut_moved plain serves window.configured window.offset onward (.inr window.stack)
  | next patience params =>
    exact carryOut_moved plain serves window.configured (window.start_planNext params) onward (.inr window.stack)
  | previous patience params =>
    exact carryOut_moved plain serves window.configured (window.start_planPrevious plain params)
      (Nat.le_trans (Nat.sub_le _ _) inside) (.inr window.stack)
  | reset => exact absurd rfl fetches

/-! ### What a call asks for -/

/-- Whatever comes back, a page takes one request. -/
theorem encounters_assemble_plain (plain : config.Plain) (params : Params) (start : Nat) :
    ((assemble config params (patience + 1) (.start start)).encounters env t).length = 1 := by
  rw [assemble, Dialogue.encounters_bind, List.length_append]
  let request := config.batchRequest params (Scan.start start).offset
  rcases (Dialogue.run env (Dialogue.ask request) t).value.outcome.bind Response.records with cause | batch
  · rfl
  · obtain ⟨page, complete⟩ := plain.absorb_first start batch
    simp only [complete]
    rfl

theorem requests_carryOut_plain (plain : config.Plain) (configured : c.config = config) (plan : Plan)
    (committed : ((c.carryOut patience plan).run env t).value.1 = .committed) :
    (requests ((c.carryOut patience plan).run env t).log).length = 1 := by
  subst configured
  cases patience with
  | zero => cases committed
  | succ patience =>
    rw [Dialogue.requests_run, List.length_map, encounters_carryOut]
    exact encounters_assemble_plain plain _ _

/-- **A call that succeeds has sent one request.** -/
theorem requests_tried_plain (plain : config.Plain) (configured : c.config = config) {call : Call}
    (fetches : call ≠ .reset) (committed : ((call.tried c).run env t).value.1 = .committed) :
    (requests ((call.tried c).run env t).log).length = 1 := by
  cases call with
  | fetch patience params anew => exact requests_carryOut_plain plain configured _ committed
  | next patience params => exact requests_carryOut_plain plain configured _ committed
  | previous patience params => exact requests_carryOut_plain plain configured _ committed
  | reset => exact absurd rfl fetches

/-! ### Whole pages -/

/-- The window begins at a whole number of pages, at the beginning or in front of some record. -/
structure Paged (config : Config) (listing : List Record) (k : Nat) (c : Collection) : Prop where
  window : WindowAt config listing (k * config.pageLimit) c
  begins : k = 0 ∨ k * config.pageLimit < listing.length

/-- **Page `k` of a listing**, as it is shown. -/
structure ShowsPage (listing : List Record) (limit k : Nat) (c : Collection) : Prop where
  number : c.pageNum = k
  begins : k = 0 ∨ k * limit < listing.length
  records : c.records = listing.extract (k * limit) (min ((k + 1) * limit) listing.length)
  offset : c.offset = min ((k + 1) * limit) listing.length
  hasNextPage : c.hasNextPage = true ↔ (k + 1) * limit < listing.length
  hasPreviousPage : c.hasPreviousPage = true ↔ 0 < k
  stack : c.stack = .empty

theorem Paged.showsPage (paged : Paged config listing k c) (plain : config.Plain) :
    ShowsPage listing config.pageLimit k c where
  number := by
    have window := paged.window
    have before : (c.offset : Int) - c.records.length = (k * config.pageLimit : Nat) := by
      have start := window.start_eq
      have length := window.length_records
      have inside := window.inside
      have offset := window.offset
      omega
    rw [pageNum, window.configured, plain.tracksPages, if_neg Bool.false_ne_true,
      if_neg (Nat.ne_of_gt plain.limited)]
    simp only [before]
    rcases Nat.eq_zero_or_pos k with rfl | later
    · simp
    -- a page behind the first one is as far behind as its limit, so with that the count fits or neither does
    have far : config.pageLimit ≤ k * config.pageLimit := Nat.le_mul_of_pos_left _ later
    have divisor : config.divisor (k * config.pageLimit : Nat) = config.pageLimit := by
      rw [Config.divisor, if_neg]
      rintro ⟨large, fits⟩
      exact absurd (Nat.lt_of_lt_of_le fits large) (Nat.not_lt.mpr far)
    have positive : (config.pageLimit : Int) ≠ 0 := by
      have := plain.limited
      omega
    rw [divisor, Int.natCast_mul, Int.mul_ediv_cancel _ positive, Int.mul_emod_left, if_pos rfl, Int.add_zero]
  begins := paged.begins
  records := by
    have upto : (k + 1) * config.pageLimit = k * config.pageLimit + config.pageLimit := Nat.add_one_mul _ _
    rw [paged.window.records, List.extract_eq_take_drop, List.take_eq_take_iff, List.length_drop, upto]
    omega
  offset := by rw [paged.window.offset, Nat.add_one_mul]
  hasNextPage := by rw [hasNextPage, paged.window.hasMore, decide_eq_true_iff, Nat.add_one_mul]
  hasPreviousPage := by
    rw [paged.window.hasPreviousPage_eq plain, decide_eq_true_iff]
    exact Nat.mul_pos_iff_of_pos_right plain.limited
  stack := paged.window.stack

/-- The call begins anew, goes back, or goes on where there is a next page. -/
def Call.offered (c : Collection) : Call → Bool
  | fetch _ _ anew => anew
  | next _ _ => c.hasNextPage
  | previous _ _ => true
  | reset => false

/-- The page that is reached from page `k`. -/
def Call.turnsTo (k : Nat) : Call → Nat
  | fetch _ _ _ => 0
  | next _ _ => k + 1
  | previous _ _ => k - 1
  | reset => 0

/-- No call succeeds that was not offered; a call that fails may be any. -/
def Orderly (env : Environment σ) : List Call → Collection → σ → Prop
  | [], _, _ => True
  | call :: rest, c, t =>
    let result := (call.tried c).run env t
    (result.value.1 = .committed → call.offered c = true) ∧ Orderly env rest result.value.2 result.peer

instance decidableOrderly (env : Environment σ) :
    (calls : List Call) → (c : Collection) → (t : σ) → Decidable (Orderly env calls c t)
  | [], _, _ => .isTrue trivial
  | call :: rest, c, t =>
    have := decidableOrderly env rest ((call.tried c).run env t).value.2 ((call.tried c).run env t).peer
    instDecidableAnd

namespace Paged

variable (paged : Paged config listing k c) (plain : config.Plain)
  (serves : Serves env listing config.batchLimit causes)

include paged plain

/-- Where there is a next page, the window goes on by a whole page. -/
theorem leads_eq {call : Call} (offered : call.offered c = true) :
    call.leads config.pageLimit listing.length (k * config.pageLimit) =
        call.turnsTo k * config.pageLimit ∧
      (call.turnsTo k = 0 ∨ call.turnsTo k * config.pageLimit < listing.length) := by
  cases call with
  | fetch patience params anew =>
    obtain rfl : anew = true := offered
    exact ⟨(Nat.zero_mul _).symm, .inl rfl⟩
  | next patience params =>
    have more : (k + 1) * config.pageLimit < listing.length := (paged.showsPage plain).hasNextPage.mp offered
    refine ⟨?_, .inr more⟩
    show min _ _ = (k + 1) * config.pageLimit
    rw [← Nat.add_one_mul, Nat.min_eq_left (Nat.le_of_lt more)]
  | previous patience params =>
    refine ⟨(Nat.sub_one_mul k config.pageLimit).symm, ?_⟩
    have less : (k - 1) * config.pageLimit ≤ k * config.pageLimit := Nat.mul_le_mul_right _ (Nat.sub_le k 1)
    obtain rfl | inside := paged.begins
    · exact .inl rfl
    · exact .inr (Nat.lt_of_le_of_lt less inside)
  | reset => cases offered

include serves

/-- **A call that was offered turns the page**, and a call that does not succeed leaves it. -/
theorem tried (call : Call) :
    let result := (call.tried c).run env t
    (result.value.1 ≠ .committed → result.value.2 = c) ∧
      (result.value.1 = .committed → call.offered c = true →
        Paged config listing (call.turnsTo k) result.value.2) := by
  intro result
  by_cases fetches : call = .reset
  · subst fetches
    refine ⟨fun uncommitted => absurd rfl uncommitted, ?_⟩
    rintro - ⟨⟩
  have moved := paged.window.tried_moved (t := t) plain serves call fetches
  show (result.value.1 ≠ _ → _) ∧ (result.value.1 = _ → _)
  change Moved _ _ _ _ result.value at moved
  generalize result.value = after at moved
  cases moved with
  | shown window =>
    refine ⟨fun uncommitted => absurd rfl uncommitted, fun _ offered => ?_⟩
    obtain ⟨leads, begins⟩ := paged.leads_eq plain offered
    rw [leads] at window
    exact ⟨window, begins⟩
  | kept uncommitted => exact ⟨fun _ => rfl, fun committed => absurd committed uncommitted⟩

/-- Calls in order lead from page to page. -/
theorem perform {calls : List Call} (orderly : Orderly env calls c t) :
    ∃ k', Paged config listing k' ((perform calls c).run env t).value := by
  refine perform_induction env (P := fun calls c t d => ∀ k, Paged config listing k c → Orderly env calls c t →
    ∃ k', Paged config listing k' d) ?_ ?_ ?_ calls c t k paged orderly
  · exact fun _ _ k paged _ => ⟨k, paged⟩
  · rintro call rest c t d committed others k paged ⟨offered, orderly⟩
    exact others _ ((paged.tried plain serves call).2 committed (offered committed)) orderly
  · rintro call rest c t d uncommitted unchanged others k paged ⟨-, orderly⟩
    rw [unchanged] at orderly
    exact others k paged orderly

end Paged

/-- The first page. -/
theorem paged_zero (plain : config.Plain) (serves : Serves env listing config.batchLimit causes)
    (configured : c.config = config) {params : Params}
    (committed : ((c.fetch patience params true).run env t).value.1 = .committed) :
    Paged config listing 0 ((c.fetch patience params true).run env t).value.2 := by
  have moved : Moved config listing 0 c ((c.fetch patience params true).run env t).value :=
    carryOut_moved plain serves configured rfl (Nat.zero_le _) (.inl rfl)
  generalize ((c.fetch patience params true).run env t).value = result at committed moved
  cases moved with
  | shown window =>
    rw [← Nat.zero_mul config.pageLimit] at window
    exact ⟨window, .inl rfl⟩
  | kept uncommitted => exact absurd committed uncommitted

/-- **Paging without a filter has a closed form.**  From the first page on, and as long as nobody goes on where
there is no next page, what is shown is page `k` of the listing for some `k`, whatever fails on the way; a call
that succeeds leads to the next page, to the one before, or to the first one, and sends one request. -/
theorem unfiltered_pages (plain : config.Plain) (serves : Serves env listing config.batchLimit causes)
    (c : Collection) (configured : c.config = config) (patience : Nat) (params : Params) (calls : List Call)
    (t : σ) :
    let first := (c.fetch patience params true).run env t
    let now := ((perform calls first.value.2).run env first.peer).value
    first.value.1 = .committed → Orderly env calls first.value.2 first.peer →
      (requests first.log).length = 1 ∧
      ∃ k, ShowsPage listing config.pageLimit k now ∧
        ∀ (call : Call) u, let after := (call.tried now).run env u
          (after.value.1 ≠ .committed → after.value.2 = now) ∧
          (after.value.1 = .committed → call.offered now = true →
            ShowsPage listing config.pageLimit (call.turnsTo k) after.value.2 ∧
              (requests after.log).length = 1) := by
  intro first now committed orderly
  refine ⟨requests_carryOut_plain plain configured _ committed, ?_⟩
  obtain ⟨k, paged⟩ := (paged_zero plain serves configured committed).perform plain serves orderly
  refine ⟨k, paged.showsPage plain, ?_⟩
  intro call u after
  obtain ⟨kept, turned⟩ := paged.tried (t := u) plain serves call
  refine ⟨kept, fun done offered => ⟨(turned done offered).showsPage plain, ?_⟩⟩
  refine requests_tried_plain plain paged.window.configured ?_ done
  rintro rfl
  cases offered

/-- Five songs, two on a page: forward to the second page, where a call fails that was not offered, back to the
first page and once more, and forward to the last page, which is short. -/
theorem unfiltered_pages_songs :
    let config : Config := { resource := "item", pageLimit := 2 }
    let songs := Listing.namedRecords "song" 5
    let rough : Schedule := { Schedule.calm with
      exchange := fun n => if n = 2 then .requestLost (.connection "gone") else .carried }
    let env := rough.environment (Listing.peer songs) fun _ => none
    let calls := [.next 8 .empty, .fetch 8 .empty false, .previous 8 .empty, .previous 8 .empty,
      .next 8 .empty, .next 8 .empty]
    let first := ((new config).fetch 8 .empty true).run env (.start ())
    let last := ((perform calls first.value.2).run env first.peer).value
    last.pageNum = 2 ∧ ShowsPage songs 2 2 last := by
  intro config songs rough env calls first last
  have plain : config.Plain := ⟨by decide, rfl, rfl⟩
  have deep : ∀ r ∈ songs, r.toJson.depth < Json.Document.depthLimit := by decide +kernel
  have serves : Serves env songs config.batchLimit (fun _ => True) :=
    (Listing.serves_over rough _ deep (by decide +kernel)).mono fun _ _ => trivial
  have committed : first.value.1 = .committed := by decide +kernel
  have orderly : Orderly env calls first.value.2 first.peer := by decide +kernel
  have number : last.pageNum = 2 := by decide +kernel
  obtain ⟨-, k, shows, -⟩ :=
    unfiltered_pages plain serves (new config) rfl 8 .empty calls (.start ()) committed orderly
  obtain rfl : k = 2 := Int.ofNat_inj.mp (shows.number.symm.trans number)
  exact ⟨number, shows⟩

/-! ### Past the end -/

/-- A collection shows a window of the listing, or it is as it was made. -/
inductive Located (config : Config) (listing : List Record) : Collection → Prop where
  | fresh : Located config listing (new config)
  | window {start : Nat} {c : Collection} (window : WindowAt config listing start c) : Located config listing c

/-- The collection has fetched something, and since then nothing was called but further fetches. -/
inductive Reached (env : Environment σ) (config : Config) : Collection → Prop where
  | first {earlier : List Call} {call : Call} {c : Collection} {t u : σ} (fetches : call ≠ .reset)
      (committed : ((call.tried ((perform earlier (new config)).run env t).value).run env u).value =
        (.committed, c)) : Reached env config c
  | later {call : Call} {c : Collection} {t : σ} (reached : Reached env config c) (fetches : call ≠ .reset) :
      Reached env config ((call.tried c).run env t).value.2

section Located

variable (plain : config.Plain) (serves : Serves env listing config.batchLimit causes)

include plain serves

/-- Whatever is called first leads to the beginning. -/
theorem tried_new_moved {call : Call} (fetches : call ≠ .reset) :
    Moved config listing 0 (new config) ((call.tried (new config)).run env t).value := by
  have inside : 0 ≤ listing.length := Nat.zero_le _
  cases call with
  | fetch patience params anew =>
    cases anew with
    | true => exact carryOut_moved plain serves rfl rfl inside (.inl rfl)
    | false => exact carryOut_moved plain serves rfl rfl inside (.inr rfl)
  | next patience params => exact carryOut_moved plain serves rfl rfl inside (.inr rfl)
  | previous patience params =>
    have start : ((new config).planPrevious params).start = 0 := by
      show (if config.tracksPages then _ else _ : Plan).start = 0
      rw [plain.tracksPages, if_neg Bool.false_ne_true]
      exact Nat.zero_sub _
    exact carryOut_moved plain serves rfl start inside (.inr rfl)
  | reset => exact absurd rfl fetches

/-- A call that fetches something and succeeds shows a window. -/
theorem Located.moved (located : Located config listing c) {call : Call} (fetches : call ≠ .reset) :
    ∃ start, Moved config listing start c ((call.tried c).run env t).value := by
  cases located with
  | fresh => exact ⟨0, tried_new_moved plain serves fetches⟩
  | window window => exact ⟨_, window.tried_moved plain serves _ fetches⟩

theorem Located.perform (located : Located config listing c) (calls : List Call) :
    Located config listing ((perform calls c).run env t).value := by
  refine perform_keeps env ?_ located calls t
  intro call c t located _
  by_cases fetches : call = .reset
  · subst fetches
    have configured : c.config = config := by
      cases located with
      | fresh => rfl
      | window window => exact window.configured
    show Located config listing (new c.config)
    rw [configured]
    exact .fresh
  · obtain ⟨start, moved⟩ := located.moved (t := t) plain serves fetches
    generalize ((call.tried c).run env t).value = result at moved ⊢
    cases moved with
    | shown window => exact .window window
    | kept => exact located

/-- Once something was fetched, only a reset takes the window away. -/
theorem Reached.window (reached : Reached env config c) : ∃ start, WindowAt config listing start c := by
  induction reached with
  | @first earlier call c t u fetches committed =>
    have located : Located config listing ((perform earlier (new config)).run env t).value :=
      Located.fresh.perform plain serves earlier
    obtain ⟨start, moved⟩ := located.moved (t := u) plain serves fetches
    rw [committed] at moved
    cases moved with
    | shown window => exact ⟨start, window⟩
    | kept uncommitted => exact absurd rfl uncommitted
  | @later call c t _ fetches ih =>
    obtain ⟨start, window⟩ := ih
    have moved := window.tried_moved (t := t) plain serves call fetches
    generalize ((call.tried c).run env t).value = result at moved ⊢
    cases moved with
    | shown window' => exact ⟨_, window'⟩
    | kept => exact ⟨start, window⟩

/-- **One page forward and one back**: the window comes to lie a page before the page that was reached. -/
theorem WindowAt.returned (window : WindowAt config listing start c) {patience patience' : Nat}
    {params params' : Params} {u u' : σ} {next back : Collection}
    (went : ((c.fetchNext patience params).run env u).value = (.committed, next))
    (came : ((next.fetchPrevious patience' params').run env u').value = (.committed, back)) :
    WindowAt config listing (min (start + config.pageLimit) listing.length - config.pageLimit) back := by
  have forth := window.tried_moved (t := u) plain serves (.next patience params) (by simp)
  change Moved _ _ _ _ ((c.fetchNext patience params).run env u).value at forth
  rw [went] at forth
  cases forth with
  | kept uncommitted => exact absurd rfl uncommitted
  | shown window' =>
    have return' := window'.tried_moved (t := u') plain serves (.previous patience' params') (by simp)
    change Moved _ _ _ _ ((next.fetchPrevious patience' params').run env u').value at return'
    rw [came] at return'
    cases return' with
    | kept uncommitted => exact absurd rfl uncommitted
    | shown window'' => exact window''

end Located

/-- **Forward and back without a filter.**  In whatever state a collection is that shows something it has fetched,
one page forward and one back shows the same again exactly if the page was full or there was none before it;
otherwise it shows as much of the end of the listing as a page can hold. -/
theorem forward_and_back (plain : config.Plain) (serves : Serves env listing config.batchLimit causes)
    (reached : Reached env config c) {params params' : Params} {patience' : Nat} {u u' : σ}
    {next back : Collection}
    (went : ((c.fetchNext patience params).run env u).value = (.committed, next))
    (came : ((next.fetchPrevious patience' params').run env u').value = (.committed, back)) :
    (back.window = c.window ↔ c.records.length = config.pageLimit ∨ c.hasPreviousPage = false) ∧
    (c.records.length < config.pageLimit → c.hasPreviousPage = true →
      back.records = listing.drop (listing.length - config.pageLimit) ∧ back.offset = listing.length ∧
        back.hasNextPage = false) := by
  obtain ⟨start, window⟩ := reached.window plain serves
  have returned := window.returned plain serves went came
  have inside := window.inside
  have limited := plain.limited
  constructor
  · rw [window.window_eq_iff plain returned, window.length_records, window.hasPreviousPage_eq plain,
      decide_eq_false_iff_not]
    omega
  · intro short behind
    rw [window.length_records] at short
    rw [window.hasPreviousPage_eq plain, decide_eq_true_iff] at behind
    -- the page that was left ends with the listing, so the way back is taken from there
    have past_end : min (start + config.pageLimit) listing.length = listing.length := by omega
    rw [past_end] at returned
    have ends : min (listing.length - config.pageLimit + config.pageLimit) listing.length = listing.length := by
      omega
    refine ⟨?_, returned.offset.trans ends, ?_⟩
    · rw [returned.records]
      apply List.take_of_length_le
      rw [List.length_drop]
      omega
    · rw [hasNextPage, returned.hasMore]
      exact decide_eq_false (by omega)

theorem eq_of_committed {result : Fetched × Collection} (committed : result.1 = .committed) :
    result = (.committed, result.2) := by
  rw [← committed]

/-- Five songs, two on a page, and a collection that is fetched anew: from the second page, which is full, forward
and back. -/
theorem forward_and_back_full :
    let config : Config := { resource := "item", pageLimit := 2 }
    let env := Schedule.calm.environment (Listing.peer (Listing.namedRecords "song" 5)) fun _ => none
    let start : Clocked Unit := .start ()
    let before := ((perform [.next 8 .empty, .reset] (new config)).run env start).value
    let first := (((Call.fetch 8 .empty true).tried before).run env start).value.2
    let c := (((Call.next 8 .empty).tried first).run env start).value.2
    let next := ((c.fetchNext 8 .empty).run env start).value.2
    let back := ((next.fetchPrevious 8 .empty).run env start).value.2
    c.pageNum = 1 ∧ back.window = c.window := by
  intro config env start before first c next back
  have plain : config.Plain := ⟨by decide, rfl, rfl⟩
  have deep : ∀ r ∈ Listing.namedRecords "song" 5, r.toJson.depth < Json.Document.depthLimit := by
    decide +kernel
  have serves : Serves env (Listing.namedRecords "song" 5) config.batchLimit (fun _ => False) :=
    Listing.serves_calm _ deep (by decide +kernel)
  -- each call in turn is seen to succeed, by running it
  have fetches : (((Call.fetch 8 .empty true).tried before).run env start).value.1 = .committed := by
    decide +kernel
  have fetched : (((Call.fetch 8 .empty true).tried before).run env start).value = (.committed, first) :=
    eq_of_committed fetches
  have reached : Reached env config c := .later (.first (by simp) fetched) (by simp)
  have goes : ((c.fetchNext 8 .empty).run env start).value.1 = .committed := by decide +kernel
  have went : ((c.fetchNext 8 .empty).run env start).value = (.committed, next) := eq_of_committed goes
  have comes : ((next.fetchPrevious 8 .empty).run env start).value.1 = .committed := by decide +kernel
  have came : ((next.fetchPrevious 8 .empty).run env start).value = (.committed, back) := eq_of_committed comes
  have second : c.pageNum = 1 := by decide +kernel
  have full : c.records.length = config.pageLimit := by decide +kernel
  obtain ⟨restored, -⟩ := forward_and_back plain serves reached went came
  exact ⟨second, restored.mpr (.inl full)⟩

/-- Five songs, two on a page: the last page has one song, and whoever goes on from there and back sees two. -/
theorem forward_and_back_short :
    let config : Config := { resource := "item", pageLimit := 2 }
    let env := Schedule.calm.environment (Listing.peer (Listing.namedRecords "song" 5)) fun _ => none
    let c := ((perform [.fetch 8 .empty true, .next 8 .empty, .next 8 .empty] (new config)).run env
      (.start ())).value
    let next := (c.fetchNext 8 .empty).run env (.start ())
    let back := (next.value.2.fetchPrevious 8 .empty).run env next.peer
    next.value.1 = .committed ∧ back.value.1 = .committed ∧
      c.records.map (·.name?) = [some "song4"] ∧
      back.value.2.records.map (·.name?) = [some "song3", some "song4"] ∧
      back.value.2.window ≠ c.window := by
  decide +kernel

end Depot.Collection
