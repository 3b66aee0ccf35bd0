import Depot.Proofs.Collection.Listing

/-!
# Forward through a listing

A `walk` shows the first page and then the next one exactly while there is one.  Over a fixed listing it
comes to an end, and its pages cut the matches into pieces (`walk_partitions`).

The pages of a walk are a run through the numbered pages (`Walked`): each shows the page of its number, each
but the last is told that there is more, and the last is told that there is not.  What is said about all
pages is proved by induction on that run, from any number on.
-/

namespace Depot.Collection

open Dialogue (Environment requests)
open Listing (Serves)

variable {σ : Type} {env : Environment σ} {listing : List Record} {config : Config}
  {c : Collection} {patience room number k : Nat} {params : Nat → Params} {t : σ}

/-- Go on while there is a next page, at most so many times; `none` if that is too few times, or if a call
fails. -/
def onward (patience : Nat) (params : Nat → Params) : (room number : Nat) → Collection →
    Dialogue Notice (Option (List Collection))
  | 0, _, c => return if c.hasNextPage then none else some []
  | room + 1, number, c =>
    if c.hasNextPage then do
      match ← c.fetchNext patience (params number) with
      | (.committed, next) =>
        return (← onward patience params room (number + 1) next).map (next :: ·)
      | _ => return none
    else return some []

/-- Show the first page and all that come after it, each call with parameters of its own. -/
def walk (patience : Nat) (params : Nat → Params) (room : Nat) (c : Collection) :
    Dialogue Notice (Option (List Collection)) := do
  match ← c.fetch patience (params 0) true with
  | (.committed, first) => return (← onward patience params room 1 first).map (first :: ·)
  | _ => return none

/-! ### The run through the numbered pages -/

/-- These collections show page `k` and all that come after it. -/
inductive Walked (config : Config) (listing : List Record) : Nat → List Collection → Prop where
  | last {k : Nat} {c : Collection} (shown : c.Shows (page config listing k))
      (last : (page config listing k).hasMore = false) : Walked config listing k [c]
  | more {k : Nat} {c : Collection} {rest : List Collection}
      (shown : c.Shows (page config listing k)) (more : (page config listing k).hasMore = true)
      (after : Walked config listing (k + 1) rest) : Walked config listing k (c :: rest)

/-- The page that has more behind it is full. -/
theorem full_of_hasMore (positive : 0 < config.pageLimit)
    (more : (page config listing k).hasMore = true) :
    (k + 1) * config.pageLimit ≤ (listing.filter config.accepts).length := by
  have full := le_length_of_moreBehind positive more
  rw [filter_drop_boundary, List.length_drop] at full
  rw [Nat.add_one_mul]
  omega

/-- The last page has the matches that are left. -/
theorem records_of_not_hasMore (last : (page config listing k).hasMore = false) :
    (page config listing k).records = (listing.filter config.accepts).drop (k * config.pageLimit) := by
  have few := length_le_of_not_moreBehind last
  rw [filter_drop_boundary] at few
  exact List.take_of_length_le few

namespace Walked

variable {shown : List Collection}

/-- All matches from page `k` on. -/
theorem records (walked : Walked config listing k shown) :
    shown.flatMap (·.records) =
      (listing.filter config.accepts).drop (k * config.pageLimit) := by
  induction walked with
  | last shows last =>
    rw [List.flatMap_cons, List.flatMap_nil, List.append_nil, shows.records,
      records_of_not_hasMore last]
  | more shows more after ih =>
    rw [List.flatMap_cons, ih, shows.records, Nat.add_one_mul, ← List.drop_drop]
    exact List.take_append_drop _ _

/-- There are no more pages than matches to fill them, and one. -/
theorem length_le (positive : 0 < config.pageLimit) (walked : Walked config listing k shown)
    (inside : k ≤ (listing.filter config.accepts).length / config.pageLimit) :
    k + shown.length ≤ (listing.filter config.accepts).length / config.pageLimit + 1 := by
  induction walked with
  | last shows last => exact Nat.add_le_add_right inside 1
  | more shows more after ih =>
    have next := (Nat.le_div_iff_mul_le positive).mpr (full_of_hasMore positive more)
    have := ih next
    rw [List.length_cons]
    omega

theorem within (walked : Walked config listing k shown) :
    ∀ c ∈ shown, c.records.length ≤ config.pageLimit := by
  induction walked with
  | last shows last =>
    intro c hc
    rw [List.mem_singleton.mp hc, shows.records]
    exact List.length_take_le _ _
  | more shows more after ih =>
    intro c hc
    rcases List.mem_cons.mp hc with rfl | hc
    · rw [shows.records]
      exact List.length_take_le _ _
    · exact ih c hc

/-- A run is not empty. -/
theorem ne_nil (walked : Walked config listing k shown) : shown ≠ [] := by
  cases walked with
  | last => exact List.cons_ne_nil _ _
  | more => exact List.cons_ne_nil _ _

theorem full (positive : 0 < config.pageLimit) (walked : Walked config listing k shown) :
    ∀ c ∈ shown.dropLast, c.records.length = config.pageLimit := by
  induction walked with
  | last shows last =>
    intro c hc
    cases hc
  | more shows more after ih =>
    intro c hc
    rw [List.dropLast_cons_of_ne_nil after.ne_nil] at hc
    rcases List.mem_cons.mp hc with rfl | hc
    · have full := full_of_hasMore positive more
      rw [Nat.add_one_mul] at full
      rw [shows.records, page, List.length_take, List.length_drop]
      omega
    · exact ih c hc

/-- What a run begins with. -/
theorem head {rest : List Collection} (walked : Walked config listing k (c :: rest)) :
    c.Shows (page config listing k) ∧ (c.hasNextPage = true ↔ rest ≠ []) ∧
      (rest ≠ [] → Walked config listing (k + 1) rest) := by
  cases walked with
  | last shows last =>
    have noMore : c.hasNextPage = false := shows.hasMore.trans last
    simp [shows, noMore]
  | more shows more after =>
    have next : c.hasNextPage = true := shows.hasMore.trans more
    exact ⟨shows, by simp [next, after.ne_nil], fun _ => after⟩

/-- A run from one of its pages on, and what is shown up to that page. -/
theorem split {before after : List Collection}
    (walked : Walked config listing k (before ++ c :: after)) :
    Walked config listing (k + before.length) (c :: after) ∧
      (before ++ [c]).flatMap (·.records) = ((listing.filter config.accepts).drop
        (k * config.pageLimit)).take ((before.length + 1) * config.pageLimit) := by
  induction before generalizing k with
  | nil =>
    refine ⟨walked, ?_⟩
    rw [List.nil_append, List.flatMap_cons, List.flatMap_nil, List.append_nil,
      walked.head.1.records, List.length_nil, Nat.zero_add, Nat.one_mul]
    rfl
  | cons b before ih =>
    -- the first page gives its records, and the others begin where it ends
    obtain ⟨shows, -, behind⟩ := walked.head
    obtain ⟨walked, front⟩ := ih (behind (List.append_ne_nil_of_right_ne_nil _ (List.cons_ne_nil _ _)))
    have more : (before.length + 1 + 1) * config.pageLimit =
        config.pageLimit + (before.length + 1) * config.pageLimit := by
      rw [Nat.add_one_mul, Nat.add_comm]
    constructor
    · rwa [List.length_cons, ← Nat.add_assoc, Nat.add_right_comm]
    · rw [List.cons_append, List.flatMap_cons, front, shows.records, List.length_cons, more,
        List.take_add, List.drop_drop, ← Nat.add_one_mul]
      rfl

/-- Where everything matches, there is a next page exactly if there are more records. -/
theorem beyond {before after : List Collection} (positive : 0 < config.pageLimit)
    (all : ∀ r ∈ listing, config.accepts r = true)
    (walked : Walked config listing 0 (before ++ c :: after)) :
    c.hasNextPage = true ↔ ((before ++ [c]).flatMap (·.records)).length < listing.length := by
  obtain ⟨behind, front⟩ := walked.split
  have shows := behind.head.1
  have more : c.hasNextPage =
      decide (config.pageLimit < listing.length - before.length * config.pageLimit) := by
    show c.hasMore = _
    rw [shows.hasMore, Nat.zero_add]
    show moreBehind _ _ _ = _
    rw [moreBehind_all positive fun r hr => all r (List.mem_of_mem_drop hr), List.length_drop, boundary,
      examined_all all]
    exact decide_eq_decide.mpr (by omega)
  rw [more, decide_eq_true_eq, front, List.filter_eq_self.mpr all, Nat.zero_mul, List.drop_zero,
    List.length_take, Nat.add_one_mul]
  omega

end Walked

/-! ### Walking -/

/-- Where there is no next page, there is nothing to do. -/
theorem onward_of_not_hasNextPage (noMore : c.hasNextPage = false) :
    onward patience params room number c = pure (some []) := by
  cases room with
  | zero => rw [onward, noMore, if_neg Bool.false_ne_true]
  | succ room => rw [onward, noMore, if_neg Bool.false_ne_true]

/-- **Going on from page `k`** shows all pages behind it, unless there is too little room for them. -/
theorem onward_meets (serves : Serves env listing c.config.batchLimit (fun _ => False))
    (positive : 0 < c.config.pageLimit) (single : c.config.append = false)
    (lasting : listing.length < patience) (shows : c.Shows (page c.config listing k))
    (roomy : (listing.filter c.config.accepts).length < (k + 1 + room) * c.config.pageLimit) :
    (onward patience params room number c).Meets env .any
      (fun value _ => ∃ rest, value = some rest ∧ Walked c.config listing k (c :: rest)) t := by
  -- the induction is on the room: a page that has more behind it is full, so it has used up its share of
  -- the matches for which there is room
  induction room generalizing c k number t with
  | zero =>
    have noMore : c.hasNextPage = false := by
      rcases next : c.hasNextPage with - | -
      · rfl
      · have full := full_of_hasMore positive (shows.hasMore.symm.trans next)
        rw [Nat.add_zero] at roomy
        exact absurd roomy (Nat.not_lt.mpr full)
    rw [onward_of_not_hasNextPage noMore]
    exact ⟨trivial, [], rfl, .last shows (shows.hasMore.symm.trans noMore)⟩
  | succ room ih =>
    rcases next : c.hasNextPage with - | -
    · rw [onward_of_not_hasNextPage next]
      exact ⟨trivial, [], rfl, .last shows (shows.hasMore.symm.trans next)⟩
    · rw [onward, next, if_pos rfl, Dialogue.meets_bind, fetchNext]
      have start : (c.planNext (params number)).start =
          boundary c.config.accepts c.config.pageLimit listing (k + 1) := shows.offset
      have inside : (c.planNext (params number)).start ≤ listing.length := by
        rw [start]
        exact boundary_le_length _ _ _
      refine (carryOut_calm_meets serves lasting inside).mono ?_
      rintro _ u - rfl
      rw [start, pageFrom_boundary positive]
      have shown := shows_commit single (c.planNext (params number)) (page c.config listing (k + 1))
      show Dialogue.Meets env .any _ (onward _ _ _ _ _ >>= _) u
      rw [Dialogue.meets_bind]
      refine (ih (c := c.commit _ _) serves positive single shown ?_).mono ?_
      · show _ < (k + 1 + 1 + room) * c.config.pageLimit
        rwa [Nat.add_right_comm (k + 1) 1 room]
      · intro value _ _ came
        obtain ⟨rest, rfl, walked⟩ := came
        exact ⟨trivial, _, rfl, .more shows (shows.hasMore.symm.trans next) walked⟩

/-- **The whole walk**, if pages have a limit. -/
theorem walk_meets (serves : Serves env listing c.config.batchLimit (fun _ => False))
    (positive : 0 < c.config.pageLimit) (single : c.config.append = false)
    (lasting : listing.length < patience)
    (roomy : (listing.filter c.config.accepts).length / c.config.pageLimit ≤ room) :
    (walk patience params room c).Meets env .any
      (fun value _ => ∃ shown, value = some shown ∧ Walked c.config listing 0 shown) t := by
  rw [walk, Dialogue.meets_bind, fetch]
  have start : (c.planFetch (params 0) true).start =
      boundary c.config.accepts c.config.pageLimit listing 0 := (boundary_zero _ _).symm
  refine (carryOut_calm_meets serves lasting (Nat.zero_le _)).mono ?_
  rintro _ u - rfl
  rw [start, pageFrom_boundary positive]
  have shown := shows_commit single (c.planFetch (params 0) true) (page c.config listing 0)
  show Dialogue.Meets env .any _ (onward _ _ _ _ _ >>= _) u
  rw [Dialogue.meets_bind]
  refine (onward_meets (c := c.commit _ _) serves positive single lasting shown ?_).mono ?_
  · show (listing.filter c.config.accepts).length < (0 + 1 + room) * c.config.pageLimit
    apply (Nat.div_lt_iff_lt_mul positive).mp
    omega
  · intro value _ _ came
    obtain ⟨rest, rfl, walked⟩ := came
    exact ⟨trivial, _, rfl, walked⟩

/-! ### Without a limit -/

/-- The first page has everything. -/
theorem fetch_everything_meets (serves : Serves env listing c.config.batchLimit (fun _ => False))
    (everything : c.config.pageLimit = 0) (single : c.config.append = false)
    (lasting : listing.length < patience) (p : Params) :
    (c.fetch patience p true).Meets env .any (fun result _ => ∃ first, result = (.committed, first) ∧
      first.records = listing.filter c.config.accepts ∧ first.hasNextPage = false) t := by
  refine (carryOut_calm_meets serves lasting (Nat.zero_le _)).mono ?_
  rintro _ u - rfl
  have all : pageFrom c.config.accepts c.config.pageLimit listing 0 =
      ⟨listing.filter c.config.accepts, 0 + listing.length, false⟩ := by
    rw [pageFrom, everything]
    rfl
  have shown := shows_commit single (c.planFetch p true)
    (pageFrom c.config.accepts c.config.pageLimit listing 0)
  refine ⟨_, rfl, ?_, ?_⟩
  · exact shown.records.trans (congrArg Page.records all)
  · exact shown.hasMore.trans (congrArg Page.hasMore all)

/-- A page takes one request. -/
theorem encounters_assemble_everything (everything : config.pageLimit = 0) (p : Params) (s : Scan) :
    ((assemble config p (patience + 1) s).encounters env t).length = 1 := by
  rw [assemble, Dialogue.encounters_bind, List.length_append]
  rcases (Dialogue.run env (Dialogue.ask (config.batchRequest p s.offset)) t).value.outcome.bind
    Response.records with cause | batch
  · rfl
  · rw [everything]
    simp [Scan.absorb, Dialogue.ask, Dialogue.encounters]

/-- Nothing more is asked for once the page is there. -/
theorem encounters_carryOut (plan : Plan) : (c.carryOut patience plan).encounters env t =
    (assemble c.config plan.params patience (.start plan.start)).encounters env t := by
  rw [carryOut, Dialogue.encounters_bind]
  rcases ((assemble c.config plan.params patience (.start plan.start)).run env t).value with outcome | page
  · exact List.append_nil _
  · simp [Dialogue.encounters_bind]

theorem encounters_carryOut_everything (everything : c.config.pageLimit = 0) (plan : Plan) :
    ((c.carryOut (patience + 1) plan).encounters env t).length = 1 := by
  rw [encounters_carryOut, encounters_assemble_everything everything]

/-- **The whole walk**, if pages have no limit, is one page and one request. -/
theorem walk_everything (serves : Serves env listing c.config.batchLimit (fun _ => False))
    (everything : c.config.pageLimit = 0) (single : c.config.append = false)
    (lasting : listing.length < patience) (t : σ) :
    ∃ first, ((walk patience params room c).run env t).value = some [first] ∧
      first.records = listing.filter c.config.accepts ∧ first.hasNextPage = false ∧
      ((walk patience params room c).encounters env t).length = 1 := by
  have fetched := fetch_everything_meets (t := t) serves everything single lasting (params 0)
  obtain ⟨-, -, first, result, records, noMore⟩ := Dialogue.meets_iff.mp fetched
  refine ⟨first, ?_, records, noMore, ?_⟩
  · rw [walk, Dialogue.value_bind, result]
    show ((onward patience params room 1 first >>= _).run env _).value = _
    rw [onward_of_not_hasNextPage noMore]
    rfl
  · -- all requests are those of the first call
    rw [walk, Dialogue.encounters_bind, List.length_append, result]
    show _ + ((onward patience params room 1 first >>= _).encounters env _).length = 1
    rw [onward_of_not_hasNextPage noMore]
    obtain ⟨patience, rfl⟩ : ∃ n, patience = n + 1 := ⟨_, (Nat.succ_pred (by omega)).symm⟩
    show ((c.carryOut (patience + 1) _).encounters env t).length = 1
    exact encounters_carryOut_everything everything _

/-! ### The pages of a walk -/

/-- **The pages partition the matches** of a listing. -/
structure Partition (config : Config) (listing : List Record) (shown : List Collection) : Prop where
  /-- Every match is on one page, in order. -/
  records : shown.flatMap (·.records) = listing.filter config.accepts
  few : shown.length ≤ (listing.filter config.accepts).length / config.pageLimit + 1
  full : ∀ c ∈ shown.dropLast, c.records.length = config.pageLimit
  within : 0 < config.pageLimit → ∀ c ∈ shown, c.records.length ≤ config.pageLimit
  /-- There is a next page exactly in front of another one. -/
  next : ∀ before c after, shown = before ++ c :: after → (c.hasNextPage = true ↔ after ≠ [])
  /-- Without a filter, there is a next page exactly if there are records beyond this one. -/
  beyond : config.filter = none → ∀ before c after, shown = before ++ c :: after →
    (c.hasNextPage = true ↔ ((before ++ [c]).flatMap (·.records)).length < listing.length)

theorem accepts_of_unfiltered (unfiltered : config.filter = none) (r : Record) :
    config.accepts r = true := by
  rw [Config.accepts, unfiltered]
  rfl

theorem Walked.partition {shown : List Collection} (positive : 0 < config.pageLimit)
    (walked : Walked config listing 0 shown) : Partition config listing shown where
  records := by
    rw [walked.records, Nat.zero_mul, List.drop_zero]
  few := by
    have := walked.length_le positive (Nat.zero_le _)
    rwa [Nat.zero_add] at this
  full := walked.full positive
  within := fun _ => walked.within
  next := by
    rintro before c after rfl
    exact walked.split.1.head.2.1
  beyond := by
    rintro unfiltered before c after rfl
    exact walked.beyond positive fun r _ => accepts_of_unfiltered unfiltered r

/-- One page with everything. -/
theorem partition_singleton {first : Collection}
    (records : first.records = listing.filter config.accepts) (noMore : first.hasNextPage = false)
    (everything : config.pageLimit = 0) : Partition config listing [first] where
  records := by
    rw [List.flatMap_cons, List.flatMap_nil, List.append_nil, records]
  few := Nat.succ_le_succ (Nat.zero_le _)
  full := by
    intro c hc
    cases hc
  within := fun positive => absurd everything (Nat.ne_of_gt positive)
  next := by
    intro before c after split
    obtain ⟨-, ends⟩ | ⟨-, ends⟩ := List.singleton_eq_append_iff.mp split
    · cases ends
      simp [noMore]
    · cases ends
  beyond := by
    intro unfiltered before c after split
    obtain ⟨rfl, ends⟩ | ⟨-, ends⟩ := List.singleton_eq_append_iff.mp split
    · cases ends
      have all : listing.filter config.accepts = listing :=
        List.filter_eq_self.mpr fun r _ => accepts_of_unfiltered unfiltered r
      simp [noMore, records, all]
    · cases ends

/-- **Forward paging partitions the matches.**  Over a fixed listing, from any collection that does not
append, whatever else each call asks for, the walk comes to an end; and without a limit it is one page and
one request.  Patience that outlasts the listing is never used up. -/
theorem walk_partitions (serves : Serves env listing c.config.batchLimit (fun _ => False))
    (single : c.config.append = false) (lasting : listing.length < patience)
    (roomy : (listing.filter c.config.accepts).length / c.config.pageLimit ≤ room)
    (params : Nat → Params) (t : σ) :
    ∃ shown, ((walk patience params room c).run env t).value = some shown ∧
      Partition c.config listing shown ∧
      (c.config.pageLimit = 0 → shown.length = 1 ∧
        (requests ((walk patience params room c).run env t).log).length = 1) := by
  rcases Nat.eq_zero_or_pos c.config.pageLimit with everything | positive
  · obtain ⟨first, value, records, noMore, once⟩ :=
      @walk_everything _ env listing c patience room params serves everything single lasting t
    refine ⟨[first], value, partition_singleton records noMore everything, fun _ => ⟨rfl, ?_⟩⟩
    rw [Dialogue.requests_run, List.length_map, once]
  · have whole := @walk_meets _ env listing c patience room params t serves positive single lasting roomy
    obtain ⟨-, -, shown, value, walked⟩ := Dialogue.meets_iff.mp whole
    refine ⟨shown, value, walked.partition positive, ?_⟩
    intro everything
    exact absurd everything (Nat.ne_of_gt positive)

/-- Five songs, of which the third one is not shown, two on a page. -/
theorem walk_partitions_songs :
    let c := new { resource := "item", pageLimit := 2, filter := some (·.name? != some "song2") }
    let env := Schedule.calm.environment (Listing.peer (Listing.namedRecords "song" 5)) fun _ => none
    ∃ shown, ((walk 6 (fun _ => .empty) 2 c).run env (.start ())).value = some shown ∧
      Partition c.config (Listing.namedRecords "song" 5) shown ∧ shown.length ≤ 3 := by
  intro c env
  obtain ⟨shown, value, parts, -⟩ := @walk_partitions _ env (Listing.namedRecords "song" 5) c 6 2
    (Listing.serves_calm _ (by decide +kernel) (by decide +kernel)) rfl (by decide +kernel)
    (by decide +kernel) (fun _ => .empty) (.start ())
  exact ⟨shown, value, parts, parts.few.trans (by decide +kernel)⟩

end Depot.Collection
