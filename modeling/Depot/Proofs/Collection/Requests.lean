import Depot.Proofs.Collection.Batches

/-!
# What a collection asks for

A call asks for one batch after the other, a page apart from where it begins (`assemble_spaced`).  What else
stands in its requests has been settled before: the settings, and the parameters of the last fetch that has
succeeded, with those of the present call over them (`Call.asked`).  Whatever has been called before, and
whoever has answered, every request is determined by that (`requests_exact`): a parameter of a call that failed
is never seen, and none that is called `offset` or `limit` at all.
-/

namespace Depot.Collection

open Dialogue (Environment Log exchanges requests)

variable {σ : Type} {env : Environment σ} {config : Config} {params : Params} {c : Collection}
  {patience start n : Nat} {plan : Plan} {call : Call} {values last : String → Option String}
  {log : Log Notice} {t : σ}

/-! ### One request -/

/-- The keys that a collection itself has something to say about. -/
def ownKeys : List String := ["limit", "offset", "sort", "sortdir"]

/-- **A request for the batch at this raw offset**, with these values under the keys that were asked for. -/
structure AsksFor (config : Config) (values : String → Option String) (offset : Nat) (request : Request) :
    Prop where
  method : request.method = "GET"
  target : request.target = .path (config.altUrl.getD config.resource)
  /-- No key comes twice, and the keys ascend. -/
  ascending : Ascending request.query
  /-- One record more than a page, or all. -/
  limit : request.queryValue? "limit" =
    some (toString (if 0 < config.pageLimit then config.pageLimit + 1 else 0))
  offset : request.queryValue? "offset" = some (toString offset)
  sort : request.queryValue? "sort" = some ((values "sort").getD config.sortField)
  sortdir : request.queryValue? "sortdir" = some ((values "sortdir").getD config.sortDir.param)
  others : ∀ key, key ∉ ownKeys → request.queryValue? key = values key
  headers : request.headers = []
  body : request.body = .empty

/-- What stands in a query under the keys that say nothing about which records are asked for. -/
theorem queryValue?_batchRequest {key : String} (notLimit : key ≠ "limit") (notOffset : key ≠ "offset")
    (offset : Nat) : (config.batchRequest params offset).queryValue? key =
      (params.get? key).or (if key = "sortdir" then some config.sortDir.param
        else if key = "sort" then some config.sortField else none) := by
  show (config.query params offset).get? key = _
  rw [Config.query, Dictionary.get?_insert, if_neg notOffset, Dictionary.get?_insert, if_neg notLimit,
    Dictionary.get?_override, Dictionary.get?_erase, if_neg notOffset, Dictionary.get?_erase, if_neg notLimit,
    Dictionary.get?_insert, Dictionary.get?_insert, Dictionary.get?_empty]

/-- **The request for a batch**, by the parameters that it is made from. -/
theorem asksFor_batchRequest (given : ∀ key, params.get? key = values key) (offset : Nat) :
    AsksFor config values offset (config.batchRequest params offset) where
  method := rfl
  target := rfl
  ascending := (config.query params offset).ascending
  limit := queryValue?_limit config params offset
  offset := queryValue?_offset config params offset
  sort := by
    rw [queryValue?_batchRequest (by decide) (by decide), given, if_neg (by decide), if_pos rfl,
      Option.or_some]
  sortdir := by
    rw [queryValue?_batchRequest (by decide) (by decide), given, if_pos rfl, Option.or_some]
  others := by
    intro key other
    simp only [ownKeys, List.mem_cons, List.not_mem_nil, or_false, not_or] at other
    obtain ⟨notLimit, notOffset, notSort, notDir⟩ := other
    rw [queryValue?_batchRequest notLimit notOffset, given, if_neg notDir, if_neg notSort, Option.or_none]
  headers := rfl
  body := rfl

/-! ### The requests of a call -/

/-- So many batches have been asked for, one behind the other, a page apart. -/
def Spaced (config : Config) (params : Params) (start n : Nat) (log : Log Notice) : Prop :=
  requests log = (List.range n).map fun i => config.batchRequest params (start + i * config.pageLimit)

theorem spaced_zero : Spaced config params start 0 [] := rfl

/-- One batch more. -/
theorem Spaced.sent (spaced : Spaced config params start n log) {offset : Nat}
    (next : offset = start + n * config.pageLimit) (reply : Reply) :
    Spaced config params start (n + 1) (log ++ [.sent (config.batchRequest params offset) reply]) := by
  rw [Spaced, Dialogue.requests_eq] at spaced ⊢
  rw [Dialogue.exchanges_append, List.map_append, spaced, List.range_succ, List.map_append, next]
  rfl

/-- A scan goes on a page behind where it was, and only if pages have a limit. -/
theorem offset_of_ongoing {s further : Scan} {limit : Nat} {accepts : Record → Bool} {batch : List Record}
    (ongoing : s.absorb limit accepts batch = .ongoing further) :
    0 < limit ∧ further.offset = s.offset + limit := by
  have absorbs := Scan.absorbs limit accepts s batch
  rw [ongoing] at absorbs
  cases absorbs with
  | ongoing positive longer few =>
    refine ⟨positive, ?_⟩
    show s.offset + (keep limit batch).length = _
    rw [keep, if_pos positive, List.length_take, Nat.min_eq_left (Nat.le_of_lt longer)]

/-- **While a page is put together**, one batch is asked for after the other. -/
theorem assemble_spaced {s : Scan} (spaced : Spaced config params start n log)
    (offset : s.offset = start + n * config.pageLimit) (once : config.pageLimit = 0 → n = 0) :
    (assemble config params patience s).Honours .any (fun _ log =>
      ∃ n, Spaced config params start n log ∧ (config.pageLimit = 0 → n ≤ 1)) log := by
  induction patience generalizing s n log with
  | zero =>
    refine ⟨n, spaced, ?_⟩
    intro everything
    rw [once everything]
    exact Nat.zero_le 1
  | succ patience ih =>
    have onlyOne (everything : config.pageLimit = 0) : n + 1 ≤ 1 := by
      rw [once everything]
    apply honours_assemble trivial
    · intro reply cause _
      exact ⟨n + 1, spaced.sent offset reply, onlyOne⟩
    · intro reply batch page _ _ _
      exact ⟨n + 1, spaced.sent offset reply, onlyOne⟩
    · intro reply batch further _ _ absorbed
      obtain ⟨positive, behind⟩ := offset_of_ongoing absorbed
      apply ih (spaced.sent offset reply)
      · rw [behind, offset, Nat.add_one_mul, Nat.add_assoc]
      · exact fun everything => absurd everything (Nat.ne_of_gt positive)

theorem carryOut_spaced (plan : Plan) :
    (c.carryOut patience plan).Honours .any (fun _ log =>
      ∃ n, Spaced c.config plan.params plan.start n log ∧ (c.config.pageLimit = 0 → n ≤ 1)) [] := by
  have begins : (Scan.start plan.start).offset = plan.start + 0 * c.config.pageLimit := by
    rw [Nat.zero_mul]
    rfl
  rw [carryOut, Dialogue.honours_bind]
  refine (assemble_spaced spaced_zero begins fun _ => rfl).mono ?_
  rintro (outcome | page) log ⟨n, spaced, once⟩
  · exact ⟨n, spaced, once⟩
  · -- what is told of the page asks for nothing
    rw [Dialogue.honours_bind, Dialogue.honours_tellAll]
    refine ⟨n, ?_, once⟩
    rw [Spaced, Dialogue.requests_eq] at spaced ⊢
    rwa [Dialogue.exchanges_append, Dialogue.exchanges_map_told, List.append_nil]

/-- **The requests of a call** that begins at this raw offset. -/
structure Asks (config : Config) (values : String → Option String) (start : Nat) (sent : List Request) :
    Prop where
  /-- Every request is for the batch that is a page behind the one before it. -/
  each : ∀ i request, sent[i]? = some request →
    AsksFor config values (start + i * config.pageLimit) request
  /-- Without a limit there is one request. -/
  once : config.pageLimit = 0 → sent.length ≤ 1

theorem Spaced.asks (spaced : Spaced config params start n log) (once : config.pageLimit = 0 → n ≤ 1)
    (given : ∀ key, params.get? key = values key) : Asks config values start (requests log) where
  each := by
    intro i request found
    rw [spaced, List.getElem?_map, Option.map_eq_some_iff] at found
    obtain ⟨j, place, rfl⟩ := found
    obtain ⟨inside, rfl⟩ := List.getElem?_eq_some_iff.mp place
    rw [List.getElem_range]
    exact asksFor_batchRequest given _
  once := by
    intro everything
    rw [spaced, List.length_map, List.length_range]
    exact once everything

/-! ### Parameters from call to call -/

/-- What a call asks for under a key, if the last fetch that has succeeded asked for `last`. -/
def Call.asked (last : String → Option String) : Call → String → Option String
  | fetch _ params _, key => params.get? key
  | next _ params, key => (params.get? key).or (last key)
  | previous _ params, key => (params.get? key).or (last key)
  | reset, _ => none

/-- What was asked for by the last fetch that has succeeded, if it was `last` before these calls. -/
def lastAsked (env : Environment σ) :
    List Call → Collection → σ → (String → Option String) → String → Option String
  | [], _, _, last => last
  | call :: rest, c, t, last =>
    let result := (call.tried c).run env t
    lastAsked env rest result.value.2 result.peer
      (if result.value.1 = .committed then call.asked last else last)

/-- The parameters that a call plans with. -/
theorem get?_plan? (remembered : ∀ key, c.params.get? key = last key) (planned : call.plan? c = some plan)
    (key : String) : plan.params.get? key = call.asked last key := by
  cases call with
  | fetch patience params anew =>
    obtain rfl := Option.some.inj planned
    cases anew with
    | true => rfl
    | false => rfl
  | next patience params =>
    obtain rfl := Option.some.inj planned
    show (c.params.override params).get? key = (params.get? key).or (last key)
    rw [Dictionary.get?_override, remembered]
  | previous patience params =>
    obtain rfl := Option.some.inj planned
    have same : (c.planPrevious params).params = c.params.override params := by
      rw [planPrevious]
      split
      · rfl
      · rfl
    show _ = (params.get? key).or (last key)
    rw [same, Dictionary.get?_override, remembered]
  | reset => cases planned

/-- **A call that succeeds** is remembered with its parameters, and a reset with none. -/
theorem remembered_tried (remembered : ∀ key, c.params.get? key = last key)
    (committed : ((call.tried c).run env t).value.1 = .committed) (key : String) :
    ((call.tried c).run env t).value.2.params.get? key = call.asked last key := by
  rcases planned : call.plan? c with - | plan
  · obtain rfl := Call.eq_reset planned
    rfl
  · obtain ⟨-, earlier, last, page, -, -, commit⟩ := tried_pageOf env t planned committed
    rw [commit]
    exact get?_plan? remembered planned key

theorem remembered_perform (env : Environment σ) (calls : List Call)
    (remembered : ∀ key, c.params.get? key = last key) (t : σ) (key : String) :
    ((perform calls c).run env t).value.params.get? key = lastAsked env calls c t last key := by
  -- what was asked for last goes along with the collection
  refine perform_induction env (P := fun calls c t d => ∀ last : String → Option String,
    (∀ key, c.params.get? key = last key) → d.params.get? key = lastAsked env calls c t last key)
    ?_ ?_ ?_ calls c t last remembered
  · exact fun _ _ _ remembered => remembered key
  · intro call rest c t d committed others last remembered
    rw [lastAsked, if_pos committed]
    exact others _ (remembered_tried remembered committed)
  · intro call rest c t d uncommitted unchanged others last remembered
    rw [lastAsked, if_neg uncommitted, unchanged]
    exact others last remembered

/-- **The requests of a collection are exact**, whoever answers.  After any calls, the next call asks for batches
that follow each other without a gap, from where it is to begin, and with the parameters that it was given, over
those of the last fetch that has succeeded if it is to go on from there or back; and a reset asks for
nothing. -/
theorem requests_exact (env : Environment σ) (config : Config) (calls : List Call) (t : σ) (call : Call)
    (u : σ) :
    let c := ((perform calls (new config)).run env t).value
    let last := lastAsked env calls (new config) t fun _ => none
    let sent := requests ((call.tried c).run env u).log
    (call = .reset → sent = []) ∧
      ∀ plan, call.plan? c = some plan → Asks config (call.asked last) plan.start sent := by
  intro c last sent
  refine ⟨?_, ?_⟩
  · rintro rfl
    rfl
  · intro plan planned
    have configured : c.config = config := perform_configured env calls (new config) t
    have remembered : ∀ key, c.params.get? key = last key :=
      remembered_perform env calls (fun _ => rfl) t
    obtain ⟨patience, tried⟩ := Call.tried_eq_carryOut planned
    have kept : (c.carryOut patience plan).Honours .any _ [] := carryOut_spaced plan
    obtain ⟨-, n, spaced, once⟩ := kept.run env u (Dialogue.follows_any _ _)
    rw [configured, List.nil_append] at spaced
    rw [configured] at once
    have asks := spaced.asks once (get?_plan? remembered planned)
    show Asks config (call.asked last) plan.start (requests ((call.tried c).run env u).log)
    rwa [tried]

/-- Five songs, of which the first and the last one are shown, one on a page.  The first call asks for an offset
of its own, which stays in the parameters; the second one fails, with a value that is not seen again; and the
third one has to look at four batches for its page. -/
theorem requests_exact_songs :
    let config : Config :=
      { resource := "item", altUrl := some "search", pageLimit := 1, sortDir := .descending
        filter := some fun r => r.name? == some "song0" || r.name? == some "song4" }
    let rough : Schedule := { Schedule.calm with
      exchange := fun n => if n = 1 then .replyLost (.connection "gone") else .carried }
    let env := rough.environment (Listing.peer (Listing.namedRecords "song" 5)) fun _ => none
    let calls := [.fetch 8 (.ofList [("offset", "7"), ("q", "song"), ("sort", "size")]) true,
      .next 8 (.ofList [("q", "gone")])]
    let before := (perform calls (new config)).run env (.start ())
    let call := Call.next 8 (.ofList [("limit", "9"), ("tag", "new")])
    let last := lastAsked env calls (new config) (.start ()) fun _ => none
    let sent := requests ((call.tried before.value).run env before.peer).log
    Asks config (call.asked last) 1 sent ∧
      sent.map (·.query) = ["1", "2", "3", "4"].map fun offset =>
        [("limit", "2"), ("offset", offset), ("q", "song"), ("sort", "size"), ("sortdir", "-1"),
          ("tag", "new")] := by
  intro config rough env calls before call last sent
  obtain ⟨-, asks⟩ := requests_exact env config calls (.start ()) call before.peer
  have start : (before.value.planNext (.ofList [("limit", "9"), ("tag", "new")])).start = 1 := by
    decide +kernel
  refine ⟨?_, by decide +kernel⟩
  rw [← start]
  exact asks _ rfl

end Depot.Collection
