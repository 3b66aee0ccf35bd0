import Depot.Collection.Basic
import Depot.Peer.Listing
import Depot.Proofs.Collection.Examined
import Depot.Proofs.Dialogue.Run
import Depot.Proofs.Dictionary

/-!
# One page of a fixed listing

Which page a collection puts together where it begins, when whoever answers has a fixed listing (`Serves`).
The page depends on the listing, the filter, the limit and the raw offset at which it begins (`pageFrom`), and
on nothing else: the batches in between leave no trace.

The loop is taken apart by `absorb_batch`: behind `j` batches a scan has the matches of the first
`j * limit` records (`Scan.behind`), and one more batch either completes the page or leads to the scan behind
`j + 1` batches.
-/

namespace Depot

open Dialogue (Environment Contract)

variable {σ : Type} {accepts : Record → Bool} {limit : Nat}

/-- The page that begins at a raw offset of a listing. -/
def pageFrom (accepts : Record → Bool) (limit : Nat) (listing : List Record) (start : Nat) : Page :=
  let rest := listing.drop start
  if limit = 0 then ⟨rest.filter accepts, start + rest.length, false⟩
  else
    ⟨(rest.filter accepts).take limit, start + examined accepts limit rest,
      moreBehind accepts limit rest⟩

/-! ### Batches -/

namespace Scan

/-- A scan that began at `start`, in front of these records, and is `j` batches further. -/
def behind (accepts : Record → Bool) (limit : Nat) (rest : List Record) (start j : Nat) : Scan :=
  ⟨start + j * limit, (rest.take (j * limit)).filter accepts⟩

theorem behind_zero (rest : List Record) (start : Nat) :
    behind accepts limit rest start 0 = .start start := by
  simp [behind, Scan.start]

/-- A page of limit zero is complete with its only batch. -/
theorem absorb_everything (listing : List Record) (start : Nat) :
    (Scan.start start).absorb 0 accepts (listing.drop start) =
      .complete (pageFrom accepts 0 listing start) := by
  simp [absorb, pageFrom, Scan.start]

/-- Behind the end of the listing there is an empty page. -/
theorem absorb_nothing {listing : List Record} {start : Nat} (none_left : listing.drop start = []) :
    (Scan.start start).absorb limit accepts [] = .complete (pageFrom accepts limit listing start) := by
  rcases Nat.eq_zero_or_pos limit with rfl | positive
  · rw [← none_left]
    exact absorb_everything listing start
  · have noMore : moreBehind accepts limit [] = false := by simp [moreBehind]
    have some_limit : limit ≠ 0 := Nat.ne_of_gt positive
    simp [absorb, pageFrom, Scan.start, none_left, some_limit, examined_nil, noMore]

variable {rest : List Record} {j : Nat}

/-- The matches behind one more batch. -/
theorem filter_take_succ (rest : List Record) (j : Nat) :
    (rest.take ((j + 1) * limit)).filter accepts = (rest.take (j * limit)).filter accepts ++
      ((rest.drop (j * limit)).take limit).filter accepts := by
  rw [Nat.add_one_mul, List.take_add, List.filter_append]

/-- A full page ends behind its last match. -/
theorem examined_batch {room : Nat} (few : ((rest.take (j * limit)).filter accepts).length < limit)
    (inside : j * limit ≤ rest.length)
    (room_eq : room = limit - ((rest.take (j * limit)).filter accepts).length)
    (full : room ≤ (((rest.drop (j * limit)).take limit).filter accepts).length) :
    j * limit + examined accepts room ((rest.drop (j * limit)).take limit) =
      examined accepts limit rest := by
  have before := @examined_append accepts limit (rest.take (j * limit)) (rest.drop (j * limit))
  have batch := @examined_append accepts room ((rest.drop (j * limit)).take limit)
    ((rest.drop (j * limit)).drop limit)
  rw [List.take_append_drop, Nat.sub_eq_zero_of_le full, examined_zero, Nat.add_zero] at batch
  rw [List.take_append_drop, examined_of_length_lt few, List.length_take, Nat.min_eq_left inside,
    ← room_eq, batch] at before
  exact before.symm

/-- A page is told to have more behind it by what is seen of its last batch. -/
theorem moreBehind_batch (few : ((rest.take (j * limit)).filter accepts).length < limit)
    (inside : j * limit < rest.length) (upto : examined accepts limit rest ≤ (j + 1) * limit) :
    moreBehind accepts limit rest = (decide ((j + 1) * limit < rest.length) ||
      decide (limit < ((rest.take ((j + 1) * limit)).filter accepts).length)) := by
  rw [moreBehind, batch_end (lt_examined few inside) upto]

/-- A page that is full with this batch. -/
theorem pageFrom_full (positive : 0 < limit) {listing : List Record} {start room : Nat}
    (rest_eq : rest = listing.drop start)
    (few : ((rest.take (j * limit)).filter accepts).length < limit) (inside : j * limit < rest.length)
    (room_eq : room = limit - ((rest.take (j * limit)).filter accepts).length)
    (full : room ≤ (((rest.drop (j * limit)).take limit).filter accepts).length) :
    pageFrom accepts limit listing start =
      { records := (rest.take (j * limit)).filter accepts ++
          (((rest.drop (j * limit)).take limit).filter accepts).take room
        offset := start + j * limit + examined accepts room ((rest.drop (j * limit)).take limit)
        hasMore := decide ((j + 1) * limit < rest.length) ||
          decide (room < (((rest.drop (j * limit)).take limit).filter accepts).length) } := by
  have matched := @filter_take_succ accepts limit rest j
  have enough : limit ≤ ((rest.take ((j + 1) * limit)).filter accepts).length := by
    rw [matched, List.length_append]
    omega
  have records : (rest.filter accepts).take limit = (rest.take (j * limit)).filter accepts ++
      (((rest.drop (j * limit)).take limit).filter accepts).take room := by
    rw [← List.take_append_drop ((j + 1) * limit) rest, List.filter_append,
      List.take_append_of_le_length enough, List.take_append_drop, matched, List.take_append,
      List.take_of_length_le (Nat.le_of_lt few), room_eq]
  have more : decide (room < (((rest.drop (j * limit)).take limit).filter accepts).length) =
      decide (limit < ((rest.take ((j + 1) * limit)).filter accepts).length) := by
    rw [matched, List.length_append]
    exact decide_eq_decide.mpr (by omega)
  have offset := examined_batch few (Nat.le_of_lt inside) room_eq full
  rw [pageFrom, ← rest_eq]
  simp only [if_neg (Nat.ne_of_gt positive)]
  rw [records, moreBehind_batch few inside (examined_le enough), more, ← offset, Nat.add_assoc]

/-- A page that is not full at the end of the listing. -/
theorem pageFrom_short (positive : 0 < limit) {listing : List Record} {start : Nat}
    (rest_eq : rest = listing.drop start) (inside : j * limit < rest.length)
    (last : rest.length ≤ (j + 1) * limit)
    (few : ((rest.take ((j + 1) * limit)).filter accepts).length < limit) :
    pageFrom accepts limit listing start =
      { records := (rest.take ((j + 1) * limit)).filter accepts
        offset := start + j * limit + ((rest.drop (j * limit)).take limit).length
        hasMore := false } := by
  have last' : rest.length - j * limit ≤ limit := by
    rw [Nat.add_one_mul] at last
    omega
  rw [List.take_of_length_le last] at few ⊢
  have noMore : moreBehind accepts limit rest = false := by
    rcases more : moreBehind accepts limit rest with - | -
    · rfl
    · exact absurd (le_length_of_moreBehind positive more) (Nat.not_le.mpr few)
  have batch : ((rest.drop (j * limit)).take limit).length = rest.length - j * limit := by
    rw [List.length_take, List.length_drop, Nat.min_eq_right last']
  rw [pageFrom, ← rest_eq]
  simp only [if_neg (Nat.ne_of_gt positive)]
  rw [noMore, List.take_of_length_le (Nat.le_of_lt few), examined_of_length_lt few, batch,
    Nat.add_assoc, Nat.add_sub_of_le (Nat.le_of_lt inside)]

/-- A batch is one record too long exactly if there are more records behind it. -/
theorem longer_batch (positive : 0 < limit) (rest : List Record) (j : Nat) :
    decide (0 < limit ∧ limit < ((rest.drop (j * limit)).take (limit + 1)).length) =
      decide ((j + 1) * limit < rest.length) := by
  rw [List.length_take, List.length_drop, Nat.add_one_mul]
  apply decide_eq_decide.mpr
  omega

/-- Without the record that only shows that there is more, a batch is the next `limit` records. -/
theorem trim_batch (rest : List Record) (j : Nat) :
    (if decide ((j + 1) * limit < rest.length) then
        ((rest.drop (j * limit)).take (limit + 1)).take limit
      else (rest.drop (j * limit)).take (limit + 1)) = (rest.drop (j * limit)).take limit := by
  split
  · rw [List.take_take, Nat.min_eq_left (Nat.le_succ limit)]
  · next short =>
    rw [decide_eq_true_eq, Nat.add_one_mul] at short
    have few : (rest.drop (j * limit)).length ≤ limit := by
      rw [List.length_drop]
      omega
    rw [List.take_of_length_le (Nat.le_succ_of_le few), List.take_of_length_le few]

/-- **One more batch** completes the page, or there are more records and the page is not full. -/
theorem absorb_batch (positive : 0 < limit) {listing : List Record} {start : Nat}
    (rest_eq : rest = listing.drop start)
    (few : ((rest.take (j * limit)).filter accepts).length < limit) (inside : j * limit < rest.length) :
    (behind accepts limit rest start j).absorb limit accepts
        ((rest.drop (j * limit)).take (limit + 1)) =
      if (j + 1) * limit < rest.length ∧
          ((rest.take ((j + 1) * limit)).filter accepts).length < limit then
        .ongoing (behind accepts limit rest start (j + 1))
      else .complete (pageFrom accepts limit listing start) := by
  have matched := @filter_take_succ accepts limit rest j
  have found : (behind accepts limit rest start j).found = (rest.take (j * limit)).filter accepts := rfl
  have offset : (behind accepts limit rest start j).offset = start + j * limit := rfl
  simp only [absorb, longer_batch positive rest j, trim_batch rest j, found, offset]
  by_cases full : limit ≤ ((rest.take ((j + 1) * limit)).filter accepts).length
  · -- enough matches: the page ends inside this batch
    have enough : limit ≤ ((rest.take (j * limit)).filter accepts).length +
        (((rest.drop (j * limit)).take limit).filter accepts).length := by
      rwa [matched, List.length_append] at full
    rw [if_pos ⟨positive, enough⟩, if_neg (fun h => Nat.not_lt.mpr full h.2),
      pageFrom_full positive rest_eq few inside rfl (by omega)]
  · have missing : ¬ limit ≤ ((rest.take (j * limit)).filter accepts).length +
        (((rest.drop (j * limit)).take limit).filter accepts).length := by
      rwa [matched, List.length_append] at full
    rw [if_neg (fun h => missing h.2)]
    by_cases more : (j + 1) * limit < rest.length
    · have whole : ((rest.drop (j * limit)).take limit).length = limit := by
        rw [Nat.add_one_mul] at more
        rw [List.length_take, List.length_drop, Nat.min_eq_left (by omega)]
      rw [if_pos (decide_eq_true more), if_pos ⟨more, Nat.not_le.mp full⟩, whole, ← matched, behind,
        Nat.add_one_mul, Nat.add_assoc]
    · -- the listing is at its end, so the page stays as it is
      rw [decide_eq_false more, if_neg Bool.false_ne_true, if_neg (fun h => more h.1), ← matched,
        pageFrom_short positive rest_eq inside (Nat.not_lt.mp more) (Nat.not_le.mp full)]

end Scan

/-! ### The listing of a server -/

/-- Whoever answers has a fixed listing: a batch of this length comes back as it is in the listing,
whatever else is asked, or with a failure of one of these causes. -/
def Listing.Serves (env : Environment σ) (listing : List Record) (limit : Nat)
    (causes : HttpError → Prop) : Prop :=
  ∀ request offset t, request.queryValue? "offset" = some (toString offset) →
    request.queryValue? "limit" = some (toString limit) → offset ≤ listing.length →
      match (env.send request t).1.outcome.bind Response.records with
      | .ok batch => batch = Listing.page listing offset limit
      | .error cause => causes cause

theorem Listing.Serves.mono {env : Environment σ} {listing : List Record} {limit : Nat}
    {causes causes' : HttpError → Prop} (serves : Serves env listing limit causes)
    (imp : ∀ cause, causes cause → causes' cause) : Serves env listing limit causes' := by
  intro request offset t begins ends inside
  have answered := serves request offset t begins ends inside
  rcases reply : (env.send request t).1.outcome.bind Response.records with cause | batch
  · rw [reply] at answered
    exact imp cause answered
  · rw [reply] at answered
    exact answered

namespace Collection

open Listing (Serves)

/-- No parameter changes at which offset a batch begins. -/
theorem queryValue?_offset (config : Config) (params : Params) (offset : Nat) :
    (config.batchRequest params offset).queryValue? "offset" = some (toString offset) := by
  show (config.query params offset).get? "offset" = _
  rw [Config.query, Dictionary.get?_insert_self]

/-- No parameter changes how long a batch is. -/
theorem queryValue?_limit (config : Config) (params : Params) (offset : Nat) :
    (config.batchRequest params offset).queryValue? "limit" = some (toString config.batchLimit) := by
  show (config.query params offset).get? "limit" = _
  rw [Config.query, Dictionary.get?_insert, if_neg (by decide), Dictionary.get?_insert_self]

/-! ### Putting the page together -/

/-- How the page at a raw offset may come out; `spent` if there was no patience left for it. -/
inductive Assembled (config : Config) (listing : List Record) (causes : HttpError → Prop)
    (start : Nat) (spent : Prop) : Except Fetched Page → Prop where
  | complete : Assembled config listing causes start spent
      (.ok (pageFrom config.accepts config.pageLimit listing start))
  | failed (cause : HttpError) (known : causes cause) :
      Assembled config listing causes start spent (.error (.failed cause))
  | unfinished (h : spent) : Assembled config listing causes start spent (.error .unfinished)

variable {env : Environment σ} {listing : List Record} {causes : HttpError → Prop} {config : Config}
  {params : Params} {patience start : Nat} {t : σ}

theorem Assembled.mono {spent spent' : Prop} {outcome : Except Fetched Page} (imp : spent → spent')
    (h : Assembled config listing causes start spent outcome) :
    Assembled config listing causes start spent' outcome := by
  cases h with
  | complete => exact .complete
  | failed cause known => exact .failed cause known
  | unfinished h => exact .unfinished (imp h)

/-- One batch: it completes the page, or what comes next does. -/
theorem assemble_succ_meets (serves : Serves env listing config.batchLimit causes) {scan : Scan}
    {spent : Prop} (inside : scan.offset ≤ listing.length)
    (absorbed : let batch := Listing.page listing scan.offset config.batchLimit
      scan.absorb config.pageLimit config.accepts batch =
          .complete (pageFrom config.accepts config.pageLimit listing start) ∨
        ∃ next, scan.absorb config.pageLimit config.accepts batch = .ongoing next ∧
          ∀ t, (assemble config params patience next).Meets env .any
            (fun outcome _ => Assembled config listing causes start spent outcome) t) :
    (assemble config params (patience + 1) scan).Meets env .any
      (fun outcome _ => Assembled config listing causes start spent outcome) t := by
  have answered := serves (config.batchRequest params scan.offset) scan.offset t
    (queryValue?_offset config params _) (queryValue?_limit config params _) inside
  rw [assemble, Dialogue.meets_bind, Dialogue.meets_ask]
  refine ⟨trivial, trivial, trivial, ?_⟩
  rcases outcome : (env.send (config.batchRequest params scan.offset) t).1.outcome.bind Response.records
    with cause | batch
  · rw [outcome] at answered
    exact ⟨trivial, .failed cause answered⟩
  · rw [outcome] at answered
    obtain rfl : batch = _ := answered
    simp only []
    obtain complete | ⟨next, ongoing, goesOn⟩ := absorbed
    · rw [complete]
      exact ⟨trivial, .complete⟩
    · rw [ongoing]
      exact goesOn _

/-- **From any batch on**, the page that comes out is the one of the listing.  Every batch that does not
complete it moves the scan forward, so patience that outlasts the records is not used up. -/
theorem assemble_behind_meets (serves : Serves env listing config.batchLimit causes)
    (positive : 0 < config.pageLimit) {rest : List Record} (rest_eq : rest = listing.drop start)
    (start_le : start ≤ listing.length) {j : Nat}
    (few : ((rest.take (j * config.pageLimit)).filter config.accepts).length < config.pageLimit)
    (inside : j * config.pageLimit < rest.length) :
    (assemble config params patience (.behind config.accepts config.pageLimit rest start j)).Meets env
      .any (fun outcome _ => Assembled config listing causes start
        (patience ≤ rest.length - j * config.pageLimit) outcome) t := by
  -- the induction is on the patience; the scan is known by the number of batches behind it
  induction patience generalizing j t with
  | zero => exact ⟨trivial, .unfinished (Nat.zero_le _)⟩
  | succ patience ih =>
    have length : rest.length = listing.length - start := by rw [rest_eq, List.length_drop]
    have batch : Listing.page listing (start + j * config.pageLimit) config.batchLimit =
        (rest.drop (j * config.pageLimit)).take (config.pageLimit + 1) := by
      rw [Config.batchLimit, if_pos positive, Listing.page, if_neg (Nat.succ_ne_zero _), rest_eq,
        List.drop_drop]
    have absorbed := Scan.absorb_batch positive rest_eq few inside
    rw [← batch] at absorbed
    apply assemble_succ_meets serves
    · show start + j * config.pageLimit ≤ listing.length
      omega
    by_cases goesOn : (j + 1) * config.pageLimit < rest.length ∧
        ((rest.take ((j + 1) * config.pageLimit)).filter config.accepts).length < config.pageLimit
    · rw [if_pos goesOn] at absorbed
      refine .inr ⟨_, absorbed, ?_⟩
      intro t
      refine (ih goesOn.2 goesOn.1).mono ?_
      intro outcome _ _ came
      apply came.mono
      intro short
      have ahead := goesOn.1
      rw [Nat.add_one_mul] at short ahead
      omega
    · rw [if_neg goesOn] at absorbed
      exact .inl absorbed

/-- **The page that is put together from an offset of the listing** is the one that begins there. -/
theorem assemble_start_meets (serves : Serves env listing config.batchLimit causes)
    (start_le : start ≤ listing.length) :
    (assemble config params patience (.start start)).Meets env .any
      (fun outcome _ => Assembled config listing causes start (patience ≤ listing.length) outcome)
      t := by
  rcases patience with - | patience
  · exact ⟨trivial, .unfinished (Nat.zero_le _)⟩
  -- with one batch the page is complete, or the scan is at the first of its batches
  rcases Nat.eq_zero_or_pos config.pageLimit with everything | positive
  · have batch : Listing.page listing start config.batchLimit = listing.drop start := by
      rw [Config.batchLimit, everything, if_neg (Nat.lt_irrefl 0), Listing.page, if_pos rfl]
    have absorbed := @Scan.absorb_everything config.accepts listing start
    rw [← batch, ← everything] at absorbed
    exact assemble_succ_meets serves start_le (.inl absorbed)
  rcases Nat.eq_zero_or_pos (listing.drop start).length with none_left | inside
  · have none_left := List.eq_nil_of_length_eq_zero none_left
    have batch : Listing.page listing start config.batchLimit = [] := by
      rw [Listing.page, none_left, List.take_nil, ite_self]
    have absorbed := @Scan.absorb_nothing config.accepts config.pageLimit listing start none_left
    rw [← batch] at absorbed
    exact assemble_succ_meets serves start_le (.inl absorbed)
  · rw [← Scan.behind_zero (listing.drop start) start]
    refine (assemble_behind_meets serves positive rfl start_le ?_ ?_).mono ?_
    · rw [Nat.zero_mul]
      exact positive
    · rw [Nat.zero_mul]
      exact inside
    · intro outcome _ _ came
      apply came.mono
      intro short
      rw [List.length_drop] at short
      omega

/-! ### Carrying out a plan -/

/-- How a call may come out: the page of its plan is shown, or the collection is as it was. -/
inductive Carried (c : Collection) (listing : List Record) (causes : HttpError → Prop) (plan : Plan)
    (spent : Prop) : Fetched × Collection → Prop where
  | committed : Carried c listing causes plan spent (.committed,
      c.commit plan (pageFrom c.config.accepts c.config.pageLimit listing plan.start))
  | failed (cause : HttpError) (known : causes cause) :
      Carried c listing causes plan spent (.failed cause, c)
  | unfinished (h : spent) : Carried c listing causes plan spent (.unfinished, c)

/-- **A call that begins inside the listing** shows the page that begins there, or nothing changes. -/
theorem carryOut_meets {c : Collection} {plan : Plan}
    (serves : Serves env listing c.config.batchLimit causes) (inside : plan.start ≤ listing.length) :
    (c.carryOut patience plan).Meets env .any
      (fun result _ => Carried c listing causes plan (patience ≤ listing.length) result) t := by
  rw [carryOut, Dialogue.meets_bind]
  refine (assemble_start_meets serves inside).mono ?_
  intro outcome u _ came
  cases came with
  | complete =>
    show Dialogue.Meets env .any _ (Dialogue.tellAll _ >>= _) u
    rw [Dialogue.meets_bind, Dialogue.meets_tellAll]
    exact ⟨trivial, trivial, .committed⟩
  | failed cause known => exact ⟨trivial, .failed cause known⟩
  | unfinished h => exact ⟨trivial, .unfinished h⟩

/-- **Where nothing fails**, patience that outlasts the listing is enough. -/
theorem carryOut_calm_meets {c : Collection} {plan : Plan}
    (serves : Serves env listing c.config.batchLimit (fun _ => False))
    (lasting : listing.length < patience) (inside : plan.start ≤ listing.length) :
    (c.carryOut patience plan).Meets env .any (fun result _ => result = (.committed,
      c.commit plan (pageFrom c.config.accepts c.config.pageLimit listing plan.start))) t := by
  refine (carryOut_meets serves inside).mono ?_
  intro result _ _ carried
  cases carried with
  | committed => rfl
  | failed cause known => exact known.elim
  | unfinished short => exact absurd lasting (Nat.not_lt.mpr short)

/-! ### Numbered pages -/

/-- What is on page `k`, if pages have a limit: its records, the raw offset behind it, and whether there
is more. -/
def page (config : Config) (listing : List Record) (k : Nat) : Page where
  records := ((listing.filter config.accepts).drop (k * config.pageLimit)).take config.pageLimit
  offset := boundary config.accepts config.pageLimit listing (k + 1)
  hasMore := moreBehind config.accepts config.pageLimit
    (listing.drop (boundary config.accepts config.pageLimit listing k))

/-- Where page `k` begins, page `k` is put together. -/
theorem pageFrom_boundary (positive : 0 < config.pageLimit) (k : Nat) :
    pageFrom config.accepts config.pageLimit listing
      (boundary config.accepts config.pageLimit listing k) = page config listing k := by
  rw [pageFrom, page]
  simp only [if_neg (Nat.ne_of_gt positive)]
  rw [filter_drop_boundary, boundary_succ]

/-- A page is shown: all that is seen of the collection is what is on the page. -/
structure Shows (c : Collection) (shown : Page) : Prop where
  records : c.records = shown.records
  offset : c.offset = shown.offset
  hasMore : c.hasMore = shown.hasMore

/-- A page that is not appended is shown when it is committed. -/
theorem shows_commit {c : Collection} (single : c.config.append = false) (plan : Plan) (shown : Page) :
    (c.commit plan shown).Shows shown where
  records := by
    show (if c.config.append && !plan.reset then _ else _) = _
    rw [single, Bool.false_and, if_neg Bool.false_ne_true]
  offset := rfl
  hasMore := rfl

end Collection

end Depot
