import Depot.Proofs.Collection.Navigation
import Depot.Proofs.Dialogue.Pact

/-!
# Calls that fail leave no trace

A call on a collection fails exactly when one of its batches does not come, however many have come before it,
and then it has told nothing and the collection is as it was (`Traceless`).

Where every batch that comes depends on its request alone, a call that does not fail can end in one way only
(`tried_determined`).  So the calls that failed can be left out: whenever none of the others (`kept`) fails,
over whatever connection, the collection comes to the same and the same is told
(`failures_leave_no_trace`).
-/

namespace Depot

open Dialogue (Environment Log Pact Result events exchanges)

/-- The batch of records in a reply. -/
def Reply.batch (reply : Reply) : Except HttpError (List Record) := reply.outcome.bind Response.records

namespace Collection

variable {σ τ : Type} {env : Environment σ} {env' : Environment τ} {batchOf : Request → List Record}
  {config : Config} {params : Params} {patience : Nat} {c : Collection} {log : Log Notice}

/-! ### Batches that do not come -/

/-- Some batch did not come: its request failed, or the answer is not a list of records. -/
def Disturbed (log : Log Notice) : Prop :=
  ∃ x ∈ exchanges log, ∃ cause, x.reply.batch = .error cause

theorem not_disturbed_nil : ¬ Disturbed [] := by
  rintro ⟨x, ⟨⟩, -⟩

theorem disturbed_sent {request : Request} {reply : Reply} :
    Disturbed (log ++ [.sent request reply]) ↔ Disturbed log ∨ ∃ cause, reply.batch = .error cause := by
  simp only [Disturbed, Dialogue.exchanges_append, Dialogue.exchanges_sent, Dialogue.exchanges_nil,
    List.mem_append, List.mem_singleton, or_and_right, exists_or, exists_eq_left]

theorem not_disturbed_sent {request : Request} {reply : Reply} {batch : List Record}
    (calm : ¬ Disturbed log) (came : reply.batch = .ok batch) :
    ¬ Disturbed (log ++ [.sent request reply]) := by
  rw [disturbed_sent, came]
  rintro (before | ⟨cause, ⟨⟩⟩)
  exact calm before

/-- Nothing that is told disturbs. -/
theorem disturbed_told {told : List Notice} :
    Disturbed (log ++ told.map .told) ↔ Disturbed log := by
  rw [Disturbed, Dialogue.exchanges_append, Dialogue.exchanges_map_told, List.append_nil]
  rfl

/-- Every batch that comes depends on its request alone. -/
def answering (batchOf : Request → List Record) : Pact Notice where
  admits _ _ := True
  relies
    | _, .sent request reply => ∀ batch, reply.batch = .ok batch → batch = batchOf request
    | _, _ => True

/-! ### One call -/

/-- How a call ends, and the collection behind it. -/
def Call.tried (c : Collection) : Call → Dialogue Notice (Fetched × Collection)
  | fetch patience params anew => c.fetch patience params anew
  | next patience params => c.fetchNext patience params
  | previous patience params => c.fetchPrevious patience params
  | reset => return (.committed, c.reset)

theorem Call.on_eq (call : Call) : call.on c = (do return (← call.tried c).2) := by
  cases call <;> rfl

/-- A call fails exactly when some batch did not come, and then it has left no trace. -/
structure Traceless (c : Collection) (after : Fetched × Collection) (log : Log Notice) : Prop where
  fails_iff : (∃ cause, after.1 = .failed cause) ↔ Disturbed log
  unchanged : Disturbed log → after.2 = c
  silent : Disturbed log → events log = []

/-- **A batch, and what the scan makes of it.** -/
theorem honours_assemble {pact : Pact Notice} {Q : Except Fetched Page → Log Notice → Prop} {s : Scan}
    (asks : pact.admits log (config.batchRequest params s.offset))
    (lost : ∀ reply cause, reply.batch = .error cause →
      Q (.error (.failed cause)) (log ++ [.sent (config.batchRequest params s.offset) reply]))
    (complete : ∀ reply batch page, pact.relies log (.sent (config.batchRequest params s.offset) reply) →
      reply.batch = .ok batch → s.absorb config.pageLimit config.accepts batch = .complete page →
      Q (.ok page) (log ++ [.sent (config.batchRequest params s.offset) reply]))
    (ongoing : ∀ reply batch further, pact.relies log (.sent (config.batchRequest params s.offset) reply) →
      reply.batch = .ok batch → s.absorb config.pageLimit config.accepts batch = .ongoing further →
      (assemble config params patience further).Honours pact Q
        (log ++ [.sent (config.batchRequest params s.offset) reply])) :
    (assemble config params (patience + 1) s).Honours pact Q log := by
  rw [assemble, Dialogue.honours_bind, Dialogue.honours_ask]
  refine ⟨asks, fun reply relied => ?_⟩
  split
  · next cause failed => exact lost reply cause failed
  · next batch came =>
    split
    · next page absorbed => exact complete reply batch page relied came absorbed
    · next further absorbed => exact ongoing reply batch further relied came absorbed

theorem assemble_traceless {pact : Pact Notice} (free : ∀ past request, pact.admits past request)
    (s : Scan) (calm : ¬ Disturbed log) (silent : events log = []) :
    (assemble config params patience s).Honours pact (fun result log =>
      ((∃ cause, result = .error (.failed cause)) ↔ Disturbed log) ∧ events log = []) log := by
  induction patience generalizing s log with
  | zero =>
    refine ⟨⟨?_, fun disturbed => absurd disturbed calm⟩, silent⟩
    rintro ⟨cause, ⟨⟩⟩
  | succ patience ih =>
    have stillSilent (reply : Reply) :
        events (log ++ [.sent (config.batchRequest params s.offset) reply]) = [] := by
      simpa using silent
    apply honours_assemble (free _ _)
    · intro reply cause lost
      exact ⟨⟨fun _ => disturbed_sent.2 (.inr ⟨cause, lost⟩), fun _ => ⟨cause, rfl⟩⟩, stillSilent reply⟩
    · intro reply batch page _ came _
      refine ⟨⟨?_, fun disturbed => absurd disturbed (not_disturbed_sent calm came)⟩, stillSilent reply⟩
      rintro ⟨cause, ⟨⟩⟩
    · intro reply batch further _ came _
      exact ih further (not_disturbed_sent calm came) (stillSilent reply)

theorem carryOut_traceless (plan : Plan) :
    (c.carryOut patience plan).Honours .any (Traceless c) [] := by
  rw [carryOut, Dialogue.honours_bind]
  refine (assemble_traceless (fun _ _ => trivial) _ not_disturbed_nil rfl).mono ?_
  rintro (outcome | page) log ⟨fails, silent⟩
  · refine ⟨?_, fun _ => rfl, fun _ => silent⟩
    rw [← fails]
    simp only [Except.error.injEq]
  · have calm : ¬ Disturbed log := by
      rw [← fails]
      rintro ⟨cause, ⟨⟩⟩
    rw [Dialogue.honours_bind, Dialogue.honours_tellAll]
    refine ⟨⟨?_, ?_⟩, ?_, ?_⟩
    · rintro ⟨cause, ⟨⟩⟩
    all_goals
      intro disturbed
      exact absurd (disturbed_told.1 disturbed) calm

/-- **A call that fails leaves no trace.** -/
theorem tried_traceless (call : Call) : (call.tried c).Honours .any (Traceless c) [] := by
  cases call with
  | fetch patience params anew => exact carryOut_traceless _
  | next patience params => exact carryOut_traceless _
  | previous patience params => exact carryOut_traceless _
  | reset =>
    refine ⟨⟨?_, ?_⟩, ?_, ?_⟩
    · rintro ⟨cause, ⟨⟩⟩
    all_goals
      intro disturbed
      exact absurd disturbed not_disturbed_nil

/-- The page that is put together depends on the batches that come, and on nothing else. -/
theorem assemble_determined (batchOf : Request → List Record) (config : Config) (params : Params)
    (patience : Nat) (s : Scan) : ∃ due, ∀ log : Log Notice,
      (assemble config params patience s).Honours (answering batchOf)
        (fun result log => Disturbed log ∨ result = due) log := by
  induction patience generalizing s with
  | zero => exact ⟨.error .unfinished, fun _ => .inr rfl⟩
  | succ patience ih =>
    -- which batch comes is known before it is asked for, and so is what the scan makes of it
    let batch := batchOf (config.batchRequest params s.offset)
    have determined {reply : Reply} {came : List Record} {made : Scan.Absorbed}
        (answered : ∀ b, reply.batch = .ok b → b = batch) (batch_eq : reply.batch = .ok came)
        (absorbs : s.absorb config.pageLimit config.accepts came = made) :
        s.absorb config.pageLimit config.accepts batch = made := by
      rwa [answered came batch_eq] at absorbs
    rcases absorbed : s.absorb config.pageLimit config.accepts batch with page | further
    · refine ⟨.ok page, fun log => honours_assemble trivial ?_ ?_ ?_⟩
      · intro reply cause lost
        exact .inl (disturbed_sent.2 (.inr ⟨cause, lost⟩))
      · intro reply came page' answered batch_eq absorbs
        cases absorbed.symm.trans (determined answered batch_eq absorbs)
        exact .inr rfl
      · intro reply came further answered batch_eq absorbs
        cases absorbed.symm.trans (determined answered batch_eq absorbs)
    · obtain ⟨due, honours⟩ := ih further
      refine ⟨due, fun log => honours_assemble trivial ?_ ?_ ?_⟩
      · intro reply cause lost
        exact .inl (disturbed_sent.2 (.inr ⟨cause, lost⟩))
      · intro reply came page answered batch_eq absorbs
        cases absorbed.symm.trans (determined answered batch_eq absorbs)
      · intro reply came further' answered batch_eq absorbs
        cases absorbed.symm.trans (determined answered batch_eq absorbs)
        exact honours _

theorem carryOut_determined (batchOf : Request → List Record) (c : Collection) (patience : Nat)
    (plan : Plan) : ∃ due told, (c.carryOut patience plan).Honours (answering batchOf)
      (fun after log => Disturbed log ∨ (after = due ∧ events log = told)) [] := by
  obtain ⟨due, assembled⟩ := assemble_determined batchOf c.config plan.params patience (.start plan.start)
  have both := (assemble_traceless (fun _ _ => trivial) _ not_disturbed_nil rfl).and (assembled [])
  rcases due with outcome | page
  · refine ⟨(outcome, c), [], ?_⟩
    rw [carryOut, Dialogue.honours_bind]
    refine both.mono ?_
    rintro result log ⟨⟨fails, silent⟩, disturbed | rfl⟩
    · obtain ⟨cause, rfl⟩ := fails.2 disturbed
      exact .inl disturbed
    · exact .inr ⟨rfl, silent⟩
  · let shown := c.commit plan page
    refine ⟨(.committed, shown), shown.notices plan page, ?_⟩
    rw [carryOut, Dialogue.honours_bind]
    refine both.mono ?_
    rintro result log ⟨⟨fails, silent⟩, disturbed | rfl⟩
    · obtain ⟨cause, rfl⟩ := fails.2 disturbed
      exact .inl disturbed
    · rw [Dialogue.honours_bind, Dialogue.honours_tellAll]
      refine .inr ⟨rfl, ?_⟩
      rw [Dialogue.events_append, silent, Dialogue.events_map_told]
      rfl

/-- **A call that does not fail ends in one way only.** -/
theorem tried_determined (batchOf : Request → List Record) (c : Collection) (call : Call) :
    ∃ due told, (call.tried c).Honours (answering batchOf)
      (fun after log => Disturbed log ∨ (after = due ∧ events log = told)) [] := by
  cases call with
  | fetch patience params anew => exact carryOut_determined batchOf c _ _
  | next patience params => exact carryOut_determined batchOf c _ _
  | previous patience params => exact carryOut_determined batchOf c _ _
  | reset => exact ⟨_, _, .inr ⟨rfl, rfl⟩⟩

/-! ### Two runs -/

/-- Every batch that comes over a connection depends on its request alone. -/
def Answers (env : Environment σ) (batchOf : Request → List Record) : Prop :=
  ∀ request t batch, (env.send request t).1.batch = .ok batch → batch = batchOf request

theorem Answers.follows (answers : Answers env batchOf) (d : Dialogue Notice (Fetched × Collection))
    (t : σ) : Dialogue.Follows (answering batchOf).relies [] (d.run env t).log := by
  refine Dialogue.follows_of_forall_mem fun before h member => ?_
  have came := Dialogue.from_run d t h member
  cases h with
  | sent request reply =>
    obtain ⟨u, rfl⟩ := came
    exact answers request u
  | read source start stop outcome => trivial
  | told e => trivial

theorem traceless_run (env : Environment σ) (c : Collection) (call : Call) (t : σ) :
    Traceless c ((call.tried c).run env t).value ((call.tried c).run env t).log :=
  ((tried_traceless call).run env t (Dialogue.follows_any _ _)).2

/-- Two runs come to the same and tell the same. -/
structure SameEnd {α : Type} (r : Result σ Notice α) (r' : Result τ Notice α) : Prop where
  value : r'.value = r.value
  told : events r'.log = events r.log

/-- **One call in two runs**: it fails in one of them, or comes to the same and tells the same. -/
theorem tried_agrees (answers : Answers env batchOf) (answers' : Answers env' batchOf)
    (c : Collection) (call : Call) (t : σ) (t' : τ) :
    let r := (call.tried c).run env t
    let r' := (call.tried c).run env' t'
    Disturbed r.log ∨ Disturbed r'.log ∨ SameEnd r r' := by
  intro r r'
  obtain ⟨due, told, determined⟩ := tried_determined batchOf c call
  obtain ⟨-, disturbed | ⟨value, events⟩⟩ := determined.run env t (answers.follows _ _)
  · exact .inl disturbed
  obtain ⟨-, disturbed' | ⟨value', events'⟩⟩ := determined.run env' t' (answers'.follows _ _)
  · exact .inr (.inl disturbed')
  · exact .inr (.inr ⟨value'.trans value.symm, events'.trans events.symm⟩)

/-- The calls that do not fail, when all are made one after the other. -/
def kept (env : Environment σ) : List Call → Collection → σ → List Call
  | [], _, _ => []
  | call :: rest, c, t =>
    let tried := (call.tried c).run env t
    let others := kept env rest tried.value.2 tried.peer
    match tried.value.1 with
    | .failed _ => others
    | _ => call :: others

/-- Nothing but calls is kept, in their order. -/
theorem kept_sublist (env : Environment σ) (calls : List Call) (c : Collection) (t : σ) :
    (kept env calls c t).Sublist calls := by
  induction calls generalizing c t with
  | nil => exact .slnil
  | cons call rest ih =>
    rw [kept]
    split
    · exact (ih _ _).cons call
    · exact (ih _ _).cons_cons call

theorem kept_cons_failed {call : Call} {rest : List Call} {t : σ}
    (disturbed : Disturbed ((call.tried c).run env t).log) :
    kept env (call :: rest) c t = kept env rest c ((call.tried c).run env t).peer := by
  have traceless := traceless_run env c call t
  obtain ⟨cause, failed⟩ := traceless.fails_iff.2 disturbed
  rw [kept, failed, traceless.unchanged disturbed]

theorem kept_cons {call : Call} {rest : List Call} {t : σ}
    (calm : ¬ Disturbed ((call.tried c).run env t).log) :
    kept env (call :: rest) c t = call :: kept env rest ((call.tried c).run env t).value.2
      ((call.tried c).run env t).peer := by
  rw [kept]
  split
  · next cause failed => exact absurd ((traceless_run env c call t).fails_iff.1 ⟨cause, failed⟩) calm
  · rfl

/-- Where nothing fails, the first call does not. -/
theorem calm_of_kept {call : Call} {rest : List Call} {t : σ}
    (all : kept env (call :: rest) c t = call :: rest) :
    ¬ Disturbed ((call.tried c).run env t).log := by
  intro disturbed
  rw [kept_cons_failed disturbed] at all
  have shorter := (kept_sublist env rest c ((call.tried c).run env t).peer).length_le
  rw [all, List.length_cons] at shorter
  omega

/-- One call and then the others. -/
theorem run_perform_cons {call : Call} {rest : List Call} {t : σ}
    {first : Result σ Notice (Fetched × Collection)} {others : Result σ Notice Collection}
    (tried : (call.tried c).run env t = first)
    (performed : (perform rest first.value.2).run env first.peer = others) :
    (perform (call :: rest) c).run env t = { others with log := first.log ++ others.log } := by
  subst tried performed
  rw [perform, Call.on_eq, Dialogue.run_bind, Dialogue.run_bind]
  show Result.mk _ _ ((_ ++ []) ++ _) = _
  rw [List.append_nil]
  rfl

/-- A call that comes to the same in two runs can be put in front of what does. -/
theorem SameEnd.cons {call : Call} {rest rest' : List Call} {t : σ} {t' : τ}
    (first : SameEnd ((call.tried c).run env t) ((call.tried c).run env' t'))
    (others : SameEnd
      ((perform rest ((call.tried c).run env t).value.2).run env ((call.tried c).run env t).peer)
      ((perform rest' ((call.tried c).run env t).value.2).run env' ((call.tried c).run env' t').peer)) :
    SameEnd ((perform (call :: rest) c).run env t) ((perform (call :: rest') c).run env' t') := by
  rw [run_perform_cons rfl rfl, run_perform_cons rfl rfl, first.value]
  refine ⟨others.value, ?_⟩
  simp only [Dialogue.events_append, first.told, others.told]

/-- A call that fails can be left out. -/
theorem SameEnd.skip {call : Call} {rest rest' : List Call} {t : σ} {t' : τ}
    (disturbed : Disturbed ((call.tried c).run env t).log)
    (others : SameEnd ((perform rest c).run env ((call.tried c).run env t).peer)
      ((perform rest' c).run env' t')) :
    SameEnd ((perform (call :: rest) c).run env t) ((perform rest' c).run env' t') := by
  have traceless := traceless_run env c call t
  rw [run_perform_cons rfl rfl, traceless.unchanged disturbed]
  refine ⟨others.value, ?_⟩
  simp only [Dialogue.events_append, traceless.silent disturbed, others.told, List.nil_append]

/-- **Calls that fail leave no trace.**  A call fails exactly when some batch does not come, and then the
collection is as it was and nothing has been told; and where the batches depend on their requests alone, the
calls that do not fail come to the same without the others, over whatever connection on which they do not. -/
theorem failures_leave_no_trace (env : Environment σ) (env' : Environment τ) (calls : List Call)
    (c : Collection) (t : σ) (t' : τ) :
    (∀ (call : Call) (c : Collection) (t : σ),
      Traceless c ((call.tried c).run env t).value ((call.tried c).run env t).log) ∧
    (Answers env batchOf → Answers env' batchOf →
      kept env' (kept env calls c t) c t' = kept env calls c t →
      SameEnd ((perform calls c).run env t) ((perform (kept env calls c t) c).run env' t')) := by
  refine ⟨fun call c t => traceless_run env c call t, ?_⟩
  intro answers answers' all
  -- a call that fails moves the first run alone, and every other call moves both
  induction calls generalizing c t t' with
  | nil => exact ⟨rfl, rfl⟩
  | cons call rest ih =>
    by_cases disturbed : Disturbed ((call.tried c).run env t).log
    · rw [kept_cons_failed disturbed] at all ⊢
      exact .skip disturbed (ih _ _ _ all)
    · rw [kept_cons disturbed] at all ⊢
      have calm := calm_of_kept all
      rcases tried_agrees answers answers' c call t t' with first | second | same
      · exact absurd first disturbed
      · exact absurd second calm
      rw [kept_cons calm, same.value] at all
      exact .cons same (ih _ _ _ (List.cons.inj all).2)

/-- Over any connection, what the listing server answers depends on the request. -/
theorem answers_over {listing : List Record} (schedule : Schedule) (contents : String → Option Bytes)
    (deep : ∀ r ∈ listing, r.toJson.depth < Json.Document.depthLimit) :
    Answers (schedule.environment (Listing.peer listing) contents) fun request =>
      Listing.page listing (Listing.queryNatural request "offset") (Listing.queryNatural request "limit") := by
  intro request t batch came
  have reply : ((schedule.environment (Listing.peer listing) contents).send request t).1.batch =
      (Schedule.exchanged (Listing.peer listing) request t.peer (schedule.exchange t.exchanges)).1.bind
        Response.records := rfl
  have heard : (Listing.peer listing request t.peer).1.bind Response.records = _ :=
    Listing.records_answer deep request
  rw [reply] at came
  rcases fate : schedule.exchange t.exchanges with - | cause | cause
  · rw [fate, Schedule.exchanged, heard] at came
    exact (Except.ok.inj came).symm
  · rw [fate] at came
    cases came
  · rw [fate] at came
    cases came

/-- Seven songs, of which two in a row are not shown, two on a page: the second page needs two batches, and
the second one is lost the first time.  Without the call that failed, the same pages are told and shown. -/
theorem failures_leave_no_trace_songs :
    let config : Config :=
      { resource := "item", pageLimit := 2
        filter := some fun r => r.name? != some "song2" && r.name? != some "song3"
        extensions := ["watch"] }
    let songs := Listing.namedRecords "song" 7
    let rough : Schedule := { Schedule.calm with
      exchange := fun n => if n = 2 then .replyLost (.connection "gone") else .carried }
    let through (schedule : Schedule) := schedule.environment (Listing.peer songs) fun _ => none
    let next := Call.next 8 .empty
    let calls := [next, next, next, next]
    kept (through rough) calls (new config) (.start ()) = [next, next, next] ∧
      SameEnd ((perform calls (new config)).run (through rough) (.start ()))
        ((perform [next, next, next] (new config)).run (through .calm) (.start ())) := by
  intro config songs rough through next calls
  have deep : ∀ r ∈ songs, r.toJson.depth < Json.Document.depthLimit := by decide +kernel
  have three : kept (through rough) calls (new config) (.start ()) = [next, next, next] := by decide +kernel
  have all : kept (through .calm) [next, next, next] (new config) (.start ()) = [next, next, next] := by
    decide +kernel
  obtain ⟨-, same⟩ := failures_leave_no_trace (through rough) (through .calm) calls (new config) (.start ()) (.start ())
  rw [three] at same
  exact ⟨three, same (answers_over _ _ deep) (answers_over _ _ deep) all⟩

end Collection

end Depot
