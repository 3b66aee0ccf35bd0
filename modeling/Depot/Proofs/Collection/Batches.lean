import Depot.Proofs.Collection.Failure
import Depot.Proofs.Collection.Walk

/-!
# A page by its batches

Whatever a server answers, the page that a call commits can be read off the batches all at once (`PageOf`):
what is kept of them, one behind the other, is a list of records, and the page is its first matches.

The loop is taken apart by `Scan.absorbs`, which says what one more batch can do to a scan.  Behind some
batches a scan has what they come to (`Gathers`); one more batch either leads to the scan behind it as well,
or completes the page of them all.

So much for one call.  Any number of calls is taken up by `perform_induction`, with one call more in front.
-/

namespace Depot

open Dialogue (Environment Log exchanges)

variable {accepts : Record → Bool} {limit start : Nat} {s : Scan} {batch : List Record}
  {batches : List (List Record)}

/-! ### What is kept -/

/-- What is kept of a batch: no more than a page, if pages have a limit. -/
def keep (limit : Nat) (batch : List Record) : List Record := if 0 < limit then batch.take limit else batch

/-- What is kept of some batches, one behind the other. -/
def keepAll (limit : Nat) (batches : List (List Record)) : List Record := batches.flatMap (keep limit)

theorem keepAll_concat (limit : Nat) (batches : List (List Record)) (batch : List Record) :
    keepAll limit (batches ++ [batch]) = keepAll limit batches ++ keep limit batch := by
  rw [keepAll, List.flatMap_append, List.flatMap_singleton]
  rfl

/-- Only a batch that is longer than a page is cut. -/
theorem keep_eq (limit : Nat) (batch : List Record) :
    (if decide (0 < limit ∧ limit < batch.length) then batch.take limit else batch) = keep limit batch := by
  rw [keep]
  by_cases positive : 0 < limit
  · by_cases longer : limit < batch.length
    · rw [if_pos (decide_eq_true ⟨positive, longer⟩), if_pos positive]
    · rw [decide_eq_false (fun h => longer h.2), if_neg Bool.false_ne_true, if_pos positive,
        List.take_of_length_le (Nat.not_lt.mp longer)]
  · rw [decide_eq_false (fun h => positive h.1), if_neg Bool.false_ne_true, if_neg positive]

/-! ### The page of some batches -/

/-- The page has as many records as a page can have. -/
def Page.IsFull (limit : Nat) (page : Page) : Prop := 0 < limit ∧ page.records.length = limit

/-- **The page of some batches**, the last of them and those before it, that were asked for from a raw offset
on. -/
structure PageOf (limit : Nat) (accepts : Record → Bool) (start : Nat) (earlier : List (List Record))
    (last : List Record) (page : Page) : Prop where
  /-- A batch with another one behind it was longer than a page. -/
  longer : ∀ batch ∈ earlier, limit < batch.length
  /-- Before the last batch there were too few matches. -/
  wanting : 0 < limit → ((keepAll limit earlier).filter accepts).length < limit
  /-- Without a limit there is one batch. -/
  alone : limit = 0 → earlier = []
  /-- The last batch ends the listing or fills the page. -/
  ends : 0 < limit → last.length ≤ limit ∨ page.IsFull limit
  /-- The page has the first matches, or all of them if it has no limit. -/
  records : page.records =
    if 0 < limit then ((keepAll limit (earlier ++ [last])).filter accepts).take limit
    else (keepAll limit (earlier ++ [last])).filter accepts
  /-- A full page ends right behind its last match. -/
  full : page.IsFull limit → ∃ n i, n + 1 = limit ∧
    MatchAt accepts (keepAll limit (earlier ++ [last])) n i ∧ page.offset = start + 1 + i
  /-- Any other page ends behind all that was kept. -/
  short : ¬ page.IsFull limit → page.offset = start + (keepAll limit (earlier ++ [last])).length
  /-- There is more behind a full page if its last batch was longer, or has a match behind those of the
  page. -/
  hasMore : page.hasMore = true ↔ page.IsFull limit ∧ (limit < last.length ∨
    ∃ n i, MatchAt accepts (keep limit last) n i ∧
      limit ≤ ((keepAll limit earlier).filter accepts).length + n)

namespace PageOf

variable {earlier : List (List Record)} {last : List Record} {page : Page}

/-- A page does not end before it begins. -/
theorem start_le (of : PageOf limit accepts start earlier last page) : start ≤ page.offset := by
  by_cases full : page.IsFull limit
  · obtain ⟨n, i, -, -, offset⟩ := of.full full
    omega
  · rw [of.short full]
    exact Nat.le_add_right _ _

/-- A full page ends behind its beginning. -/
theorem start_lt (of : PageOf limit accepts start earlier last page) (full : page.IsFull limit) :
    start < page.offset := by
  obtain ⟨n, i, -, -, offset⟩ := of.full full
  omega

end PageOf

/-! ### One more batch -/

namespace Scan

/-- **What one more batch can do to a scan**: it fills the page, it was longer and the page still wants
something, or it ends the listing. -/
inductive Absorbs (limit : Nat) (accepts : Record → Bool) (s : Scan) (batch : List Record) : Absorbed → Prop where
  | full (positive : 0 < limit)
      (enough : limit ≤ s.found.length + ((keep limit batch).filter accepts).length) :
      Absorbs limit accepts s batch (.complete {
        records := s.found ++ ((keep limit batch).filter accepts).take (limit - s.found.length)
        offset := s.offset + examined accepts (limit - s.found.length) (keep limit batch)
        hasMore := decide (0 < limit ∧ limit < batch.length) ||
          decide (limit - s.found.length < ((keep limit batch).filter accepts).length) })
  | ongoing (positive : 0 < limit) (longer : limit < batch.length)
      (few : s.found.length + ((keep limit batch).filter accepts).length < limit) :
      Absorbs limit accepts s batch
        (.ongoing ⟨s.offset + (keep limit batch).length, s.found ++ (keep limit batch).filter accepts⟩)
  | ended (short : 0 < limit → batch.length ≤ limit)
      (few : 0 < limit → s.found.length + ((keep limit batch).filter accepts).length < limit) :
      Absorbs limit accepts s batch (.complete
        ⟨s.found ++ (keep limit batch).filter accepts, s.offset + (keep limit batch).length, false⟩)

theorem absorbs (limit : Nat) (accepts : Record → Bool) (s : Scan) (batch : List Record) :
    Absorbs limit accepts s batch (s.absorb limit accepts batch) := by
  simp only [absorb, keep_eq]
  by_cases full : 0 < limit ∧ limit ≤ s.found.length + ((keep limit batch).filter accepts).length
  · rw [if_pos full]
    exact .full full.1 full.2
  · rw [if_neg full]
    have few (positive : 0 < limit) : s.found.length + ((keep limit batch).filter accepts).length < limit :=
      Nat.not_le.mp fun enough => full ⟨positive, enough⟩
    by_cases longer : 0 < limit ∧ limit < batch.length
    · rw [if_pos (decide_eq_true longer)]
      exact .ongoing longer.1 longer.2 (few longer.1)
    · rw [decide_eq_false longer, if_neg Bool.false_ne_true]
      exact .ended (fun positive => Nat.not_lt.mp fun h => longer ⟨positive, h⟩) few

/-- A scan is behind some batches, and a page is not complete with them. -/
structure Gathers (limit : Nat) (accepts : Record → Bool) (start : Nat) (batches : List (List Record))
    (s : Scan) : Prop where
  longer : ∀ batch ∈ batches, limit < batch.length
  alone : limit = 0 → batches = []
  wanting : 0 < limit → s.found.length < limit
  found : s.found = (keepAll limit batches).filter accepts
  offset : s.offset = start + (keepAll limit batches).length

theorem gathers_start (limit : Nat) (accepts : Record → Bool) (start : Nat) :
    Gathers limit accepts start [] (.start start) where
  longer := List.forall_mem_nil _
  alone := fun _ => rfl
  wanting := fun positive => positive
  found := rfl
  offset := rfl

namespace Gathers

variable (gathers : Gathers limit accepts start batches s)

include gathers

/-- The matches in all that is kept, with one more batch. -/
theorem filter_keepAll : (keepAll limit (batches ++ [batch])).filter accepts =
    s.found ++ (keep limit batch).filter accepts := by
  rw [keepAll_concat, List.filter_append, gathers.found]

/-- A batch that fills the page. -/
theorem pageOf_full (positive : 0 < limit)
    (enough : limit ≤ s.found.length + ((keep limit batch).filter accepts).length) :
    PageOf limit accepts start batches batch {
      records := s.found ++ ((keep limit batch).filter accepts).take (limit - s.found.length)
      offset := s.offset + examined accepts (limit - s.found.length) (keep limit batch)
      hasMore := decide (0 < limit ∧ limit < batch.length) ||
        decide (limit - s.found.length < ((keep limit batch).filter accepts).length) } := by
  have wanting := gathers.wanting positive
  have all : (keepAll limit (batches ++ [batch])).filter accepts = _ := gathers.filter_keepAll
  have full : (s.found ++ ((keep limit batch).filter accepts).take (limit - s.found.length)).length = limit := by
    rw [List.length_append, List.length_take]
    omega
  refine ⟨gathers.longer, ?_, gathers.alone, fun _ => .inr ⟨positive, full⟩, ?_, ?_, ?_, ?_⟩
  · rw [← gathers.found]
    exact fun _ => wanting
  · rw [if_pos positive, all, List.take_append, List.take_of_length_le (Nat.le_of_lt wanting)]
  · -- the last match of the page is in all that is kept, and what is looked at ends there
    rintro -
    obtain ⟨n, rfl⟩ : ∃ n, limit = n + 1 := ⟨_, (Nat.succ_pred_eq_of_pos positive).symm⟩
    obtain ⟨i, place⟩ : ∃ i, MatchAt accepts (keepAll (n + 1) (batches ++ [batch])) n i := by
      apply exists_matchAt
      rw [all, List.length_append]
      omega
    refine ⟨n, i, rfl, place, ?_⟩
    have cut := place.examined_eq
    rw [keepAll_concat, examined_append, ← gathers.found,
      examined_of_length_lt (by rwa [← gathers.found])] at cut
    show s.offset + _ = _
    rw [gathers.offset]
    omega
  · exact fun short => absurd ⟨positive, full⟩ short
  · rw [Bool.or_eq_true, decide_eq_true_iff, decide_eq_true_iff, ← gathers.found]
    constructor
    · rintro (⟨-, longer⟩ | more)
      · exact ⟨⟨positive, full⟩, .inl longer⟩
      · -- of the matches that there was no room for, the last one is behind all others
        obtain ⟨n, count⟩ : ∃ n, ((keep limit batch).filter accepts).length = n + 1 :=
          ⟨_, (Nat.succ_pred_eq_of_pos (Nat.zero_lt_of_lt more)).symm⟩
        obtain ⟨i, place⟩ : ∃ i, MatchAt accepts (keep limit batch) n i :=
          exists_matchAt (count ▸ Nat.lt_succ_self n)
        exact ⟨⟨positive, full⟩, .inr ⟨n, i, place, by omega⟩⟩
    · rintro ⟨-, longer | ⟨n, i, place, behind⟩⟩
      · exact .inl ⟨positive, longer⟩
      · have := place.lt_length_filter
        exact .inr (by omega)

/-- A batch that ends the listing before the page is full. -/
theorem pageOf_ended (short : 0 < limit → batch.length ≤ limit)
    (few : 0 < limit → s.found.length + ((keep limit batch).filter accepts).length < limit) :
    PageOf limit accepts start batches batch
      ⟨s.found ++ (keep limit batch).filter accepts, s.offset + (keep limit batch).length, false⟩ := by
  have all : (keepAll limit (batches ++ [batch])).filter accepts = _ := gathers.filter_keepAll
  have notFull : ¬ Page.IsFull limit
      ⟨s.found ++ (keep limit batch).filter accepts, s.offset + (keep limit batch).length, false⟩ := by
    rintro ⟨positive, full⟩
    rw [List.length_append] at full
    exact Nat.ne_of_lt (few positive) full
  refine ⟨gathers.longer, ?_, gathers.alone, fun positive => .inl (short positive), ?_, ?_, ?_, ?_⟩
  · rw [← gathers.found]
    exact gathers.wanting
  · split
    · next positive =>
      rw [all, List.take_of_length_le]
      rw [List.length_append]
      exact Nat.le_of_lt (few positive)
    · exact all.symm
  · exact fun full => absurd full notFull
  · intro _
    show s.offset + _ = _
    rw [gathers.offset, keepAll_concat, List.length_append, Nat.add_assoc]
  · constructor
    · intro more
      cases more
    · exact fun more => absurd more.1 notFull

/-- **One more batch** completes the page of them all, or leads to the scan behind it. -/
theorem absorb (batch : List Record) :
    match s.absorb limit accepts batch with
    | .complete page => PageOf limit accepts start batches batch page
    | .ongoing further => Gathers limit accepts start (batches ++ [batch]) further := by
  have absorbs := Scan.absorbs limit accepts s batch
  generalize s.absorb limit accepts batch = absorbed at absorbs
  cases absorbs with
  | full positive enough => exact gathers.pageOf_full positive enough
  | ended short few => exact gathers.pageOf_ended short few
  | ongoing positive longer few =>
    refine ⟨?_, fun everything => absurd everything (Nat.ne_of_gt positive), ?_, ?_, ?_⟩
    · intro b hb
      rcases List.mem_append.mp hb with hb | hb
      · exact gathers.longer b hb
      · rwa [List.mem_singleton.mp hb]
    · intro _
      rwa [List.length_append]
    · exact gathers.filter_keepAll.symm
    · show s.offset + _ = _
      rw [gathers.offset, keepAll_concat, List.length_append, Nat.add_assoc]

end Gathers

end Scan

namespace Collection

variable {σ : Type} {env : Environment σ} {config : Config} {params : Params} {patience : Nat} {c : Collection}
  {log : Log Notice} {plan : Plan} {call : Call} {t : σ}

/-! ### One call -/

/-- The batches that came, in their order. -/
def Came (log : Log Notice) (batches : List (List Record)) : Prop :=
  (exchanges log).map (·.reply.batch) = batches.map .ok

theorem came_nil : Came [] [] := rfl

theorem Came.sent {request : Request} {reply : Reply} (came : Came log batches)
    (answered : reply.batch = .ok batch) : Came (log ++ [.sent request reply]) (batches ++ [batch]) := by
  rw [Came, Dialogue.exchanges_append, List.map_append, List.map_append, came, Dialogue.exchanges_sent,
    Dialogue.exchanges_nil, List.map_singleton, List.map_singleton, answered]

/-- What is put together is the page of the batches that came, or no page. -/
def Gathered (config : Config) (start : Nat) (log : Log Notice) : Except Fetched Page → Prop
  | .ok page => ∃ earlier last, Came log (earlier ++ [last]) ∧
      PageOf config.pageLimit config.accepts start earlier last page
  | .error outcome => outcome ≠ .committed

theorem assemble_gathered {s : Scan} (came : Came log batches)
    (gathers : s.Gathers config.pageLimit config.accepts start batches) :
    (assemble config params patience s).Honours .any (fun result log => Gathered config start log result)
      log := by
  -- the induction is on the patience; the scan is known by the batches behind it
  induction patience generalizing s log batches with
  | zero =>
    rintro ⟨⟩
  | succ patience ih =>
    apply honours_assemble trivial
    · rintro reply cause - ⟨⟩
    · intro reply batch page _ answered absorbed
      have complete := gathers.absorb batch
      rw [absorbed] at complete
      exact ⟨batches, batch, came.sent answered, complete⟩
    · intro reply batch further _ answered absorbed
      have onward := gathers.absorb batch
      rw [absorbed] at onward
      exact ih (came.sent answered) onward

/-- **A call that succeeds** has committed the page of the batches that came. -/
theorem carryOut_pageOf (plan : Plan) :
    (c.carryOut patience plan).Honours .any (fun after log => after.1 = .committed →
      ∃ earlier last page, Came log (earlier ++ [last]) ∧
        PageOf c.config.pageLimit c.config.accepts plan.start earlier last page ∧
        after.2 = c.commit plan page) [] := by
  rw [carryOut, Dialogue.honours_bind]
  refine (assemble_gathered came_nil (Scan.gathers_start _ _ plan.start)).mono ?_
  rintro (outcome | page) log gathered
  · exact fun committed => absurd committed gathered
  · obtain ⟨earlier, last, came, of⟩ := gathered
    rw [Dialogue.honours_bind, Dialogue.honours_tellAll]
    rintro -
    refine ⟨earlier, last, page, ?_, of, rfl⟩
    rwa [Came, Dialogue.exchanges_append, Dialogue.exchanges_map_told, List.append_nil]

/-- The raw offset that was asked for first. -/
def askedFrom (log : Log Notice) : Option String :=
  (Dialogue.requests log).head?.bind (·.queryValue? "offset")

theorem askedFrom_carryOut (plan : Plan) (committed : ((c.carryOut patience plan).run env t).value.1 = .committed) :
    askedFrom ((c.carryOut patience plan).run env t).log = some (toString plan.start) := by
  cases patience with
  | zero => cases committed
  | succ patience =>
    rw [askedFrom, Dialogue.requests_run, encounters_carryOut, assemble, Dialogue.encounters_bind]
    exact queryValue?_offset c.config plan.params plan.start

/-- What a call plans, if it is to fetch something. -/
def Call.plan? (c : Collection) : Call → Option Plan
  | fetch _ params anew => some (c.planFetch params anew)
  | next _ params => some (c.planNext params)
  | previous _ params => some (c.planPrevious params)
  | reset => none

/-- A call carries out its plan. -/
theorem Call.tried_eq_carryOut (planned : call.plan? c = some plan) :
    ∃ patience, call.tried c = c.carryOut patience plan := by
  cases call with
  | fetch patience params anew =>
    obtain rfl := Option.some.inj planned
    exact ⟨patience, rfl⟩
  | next patience params =>
    obtain rfl := Option.some.inj planned
    exact ⟨patience, rfl⟩
  | previous patience params =>
    obtain rfl := Option.some.inj planned
    exact ⟨patience, rfl⟩
  | reset => cases planned

/-- Only a reset has no plan. -/
theorem Call.eq_reset (unplanned : call.plan? c = none) : call = .reset := by
  cases call with
  | reset => rfl
  | fetch => cases unplanned
  | next => cases unplanned
  | previous => cases unplanned

theorem carryOut_always (plan : Plan) :
    (c.carryOut patience plan).Always fun after => after.1 ≠ .committed → after.2 = c := by
  rw [carryOut]
  apply Dialogue.always_bind
  rintro (outcome | page)
  · exact fun _ => rfl
  · exact Dialogue.always_bind _ fun _ uncommitted => absurd rfl uncommitted

/-- **A call that does not succeed** leaves the collection as it was. -/
theorem tried_unchanged (env : Environment σ) (c : Collection) (call : Call) (t : σ) :
    ((call.tried c).run env t).value.1 ≠ .committed → ((call.tried c).run env t).value.2 = c := by
  rcases planned : call.plan? c with - | plan
  · obtain rfl := Call.eq_reset planned
    exact fun uncommitted => absurd rfl uncommitted
  · obtain ⟨patience, tried⟩ := Call.tried_eq_carryOut planned
    rw [tried]
    exact (carryOut_always plan).run env t

/-- A call that succeeds, whatever was answered: from where it asked, what came, and what it has committed. -/
theorem tried_pageOf (env : Environment σ) (t : σ) (planned : call.plan? c = some plan)
    (committed : ((call.tried c).run env t).value.1 = .committed) :
    askedFrom ((call.tried c).run env t).log = some (toString plan.start) ∧
      ∃ earlier last page, Came ((call.tried c).run env t).log (earlier ++ [last]) ∧
        PageOf c.config.pageLimit c.config.accepts plan.start earlier last page ∧
        ((call.tried c).run env t).value.2 = c.commit plan page := by
  obtain ⟨patience, tried⟩ := Call.tried_eq_carryOut planned
  rw [tried] at committed ⊢
  exact ⟨askedFrom_carryOut plan committed,
    ((carryOut_pageOf plan).run env t (Dialogue.follows_any _ _)).2 committed⟩

/-- No call changes the settings. -/
theorem tried_configured (env : Environment σ) (c : Collection) (call : Call) (t : σ) :
    ((call.tried c).run env t).value.2.config = c.config := by
  by_cases committed : ((call.tried c).run env t).value.1 = .committed
  · rcases planned : call.plan? c with - | plan
    · obtain rfl := Call.eq_reset planned
      rfl
    · obtain ⟨-, earlier, last, page, -, -, commit⟩ := tried_pageOf env t planned committed
      rw [commit]
      rfl
  · rw [tried_unchanged env c call t committed]

/-- **Call after call**: what is so without calls, and is so with one more call in front, whether that succeeds or
leaves the collection as it was, is so for any calls and what they lead to. -/
theorem perform_induction (env : Environment σ) {P : List Call → Collection → σ → Collection → Prop}
    (nil : ∀ c t, P [] c t c)
    (committed : ∀ (call : Call) rest c t d, ((call.tried c).run env t).value.1 = .committed →
      P rest ((call.tried c).run env t).value.2 ((call.tried c).run env t).peer d → P (call :: rest) c t d)
    (kept : ∀ (call : Call) rest c t d, ((call.tried c).run env t).value.1 ≠ .committed →
      ((call.tried c).run env t).value.2 = c → P rest c ((call.tried c).run env t).peer d →
      P (call :: rest) c t d)
    (calls : List Call) (c : Collection) (t : σ) : P calls c t ((perform calls c).run env t).value := by
  induction calls generalizing c t with
  | nil => exact nil c t
  | cons call rest ih =>
    rw [run_perform_cons rfl rfl]
    have others := ih ((call.tried c).run env t).value.2 ((call.tried c).run env t).peer
    by_cases succeeds : ((call.tried c).run env t).value.1 = .committed
    · exact committed call rest c t _ succeeds others
    · have unchanged := tried_unchanged env c call t succeeds
      rw [unchanged] at others ⊢
      exact kept call rest c t _ succeeds unchanged others

/-- What every call that succeeds keeps to, any number of calls does. -/
theorem perform_keeps (env : Environment σ) {P : Collection → Prop}
    (step : ∀ (call : Call) (c : Collection) (t : σ), P c → ((call.tried c).run env t).value.1 = .committed →
      P ((call.tried c).run env t).value.2)
    (start : P c) (calls : List Call) (t : σ) : P ((perform calls c).run env t).value := by
  refine perform_induction env (P := fun _ c _ d => P c → P d) ?_ ?_ ?_ calls c t start
  · exact fun _ _ here => here
  · exact fun call rest c t d committed others here => others (step call c t here committed)
  · exact fun call rest c t d _ _ others => others

/-- No number of calls changes the settings. -/
theorem perform_configured (env : Environment σ) (calls : List Call) (c : Collection) (t : σ) :
    ((perform calls c).run env t).value.config = c.config :=
  perform_keeps env (P := fun d => d.config = c.config)
    (fun call d t same _ => (tried_configured env d call t).trans same) rfl calls t

/-- What stays shown when a plan is committed: what was shown before, if pages are appended to it. -/
def carriedOver (c : Collection) (plan : Plan) : List Record :=
  if c.config.append && !plan.reset then c.records else []

theorem carriedOver_reset (reset : plan.reset = true) : c.carriedOver plan = [] := by
  rw [carriedOver, reset, Bool.not_true, Bool.and_false, if_neg Bool.false_ne_true]

theorem carriedOver_append (appends : c.config.append = true) (further : plan.reset = false) :
    c.carriedOver plan = c.records := by
  rw [carriedOver, appends, further]
  rfl

theorem records_commit (plan : Plan) (page : Page) :
    (c.commit plan page).records = c.carriedOver plan ++ page.records := by
  rw [commit, carriedOver]
  split <;> rfl

/-- **A page is the page of the batches that came for it**, whoever has answered: when a call succeeds that
began to ask from some raw offset, what it has committed is what the batches come to all at once. -/
theorem page_of_batches (env : Environment σ) (c : Collection) (call : Call) (t : σ)
    (planned : call.plan? c = some plan) :
    let result := (call.tried c).run env t
    let shown := result.value.2
    result.value.1 = .committed →
      askedFrom result.log = some (toString plan.start) ∧
      ∃ earlier last page, Came result.log (earlier ++ [last]) ∧
        PageOf c.config.pageLimit c.config.accepts plan.start earlier last page ∧
        shown.records = c.carriedOver plan ++ page.records ∧
        shown.offset = page.offset ∧ shown.hasNextPage = page.hasMore := by
  intro result shown committed
  obtain ⟨asked, earlier, last, page, came, of, commit⟩ := tried_pageOf env t planned committed
  exact ⟨asked, earlier, last, page, came, of,
    (congrArg Collection.records commit).trans (records_commit plan page),
    congrArg Collection.offset commit, congrArg Collection.hasMore commit⟩

/-- Whoever deals out batches one after the other, whatever is asked. -/
def dealer : Peer (List (List Record)) := fun _ left =>
  (.ok (.ofJson (.array ((left.headD []).map Record.toJson))), left.tail)

/-- Seven songs, of which one is not shown, two on a page, in two batches that are both longer than what was
asked for: the second one fills the page with its first record, and has another match behind it. -/
theorem page_of_batches_songs :
    let config : Config :=
      { resource := "item", pageLimit := 2, filter := some (·.name? != some "song1") }
    let songs := Listing.namedRecords "song" 8
    let c : Collection := { new config with offset := 7 }
    let env := Schedule.calm.environment dealer fun _ => none
    let result := ((Call.next 8 .empty).tried c).run env (.start [songs.take 4, songs.drop 4])
    askedFrom result.log = some "7" ∧ result.value.2.offset = 10 ∧ result.value.2.hasNextPage = true ∧
      result.value.2.records.map (·.name?) = [some "song0", some "song4"] ∧
      ∃ earlier last page, Came result.log (earlier ++ [last]) ∧
        PageOf 2 config.accepts 7 earlier last page := by
  intro config songs c env result
  have committed : result.value.1 = .committed := by decide +kernel
  obtain ⟨asked, earlier, last, page, came, of, -⟩ :=
    page_of_batches env c (.next 8 .empty) (.start [songs.take 4, songs.drop 4]) rfl committed
  exact ⟨asked.trans (by decide +kernel), by decide +kernel, by decide +kernel, by decide +kernel,
    earlier, last, page, came, of⟩

end Collection

end Depot
