import Depot.Collection.Scan

/-!
# Where the pages of a listing begin

`examined accepts n records` is how many records have to be looked at for `n` matches; it cuts a listing in
two right behind the `n`-th match, or at its end if there are fewer.

* `filter_take_examined`, `filter_drop_examined`: the matches in front of the cut are the first `n`, those
  behind it are the others;
* `examined_append`: looking through two lists is looking through one after the other, so what was found in
  the first counts in the second;
* `examined_add`: to look for more matches is to go on from the cut;
* `MatchAt.examined_eq`: the cut behind a match is right behind its place.

Page `k` begins behind `k * limit` matches (`boundary`), whatever batches a server cuts the listing into.
-/

namespace Depot

variable {accepts : Record → Bool}

/-! ### The cut behind some matches -/

theorem examined_zero (records : List Record) : examined accepts 0 records = 0 := by
  rw [examined]

theorem examined_nil (n : Nat) : examined accepts n [] = 0 := by
  cases n <;> rfl

theorem examined_succ_pos (n : Nat) {r : Record} (rest : List Record) (h : accepts r = true) :
    examined accepts (n + 1) (r :: rest) = examined accepts n rest + 1 := by
  rw [examined, if_pos h]

theorem examined_succ_neg (n : Nat) {r : Record} (rest : List Record) (h : accepts r = false) :
    examined accepts (n + 1) (r :: rest) = examined accepts (n + 1) rest + 1 := by
  rw [examined, h, if_neg Bool.false_ne_true]

theorem examined_le_length (n : Nat) (records : List Record) :
    examined accepts n records ≤ records.length := by
  induction records generalizing n with
  | nil => rw [examined_nil]; exact Nat.zero_le _
  | cons r rest ih =>
    cases n with
    | zero => rw [examined_zero]; exact Nat.zero_le _
    | succ n =>
      rw [examined]
      exact Nat.succ_le_succ (ih _)

/-- In front of the cut are the first matches. -/
theorem filter_take_examined (n : Nat) (records : List Record) :
    (records.take (examined accepts n records)).filter accepts = (records.filter accepts).take n := by
  -- by induction on the records, for any number of matches: a match in front uses up one of them
  induction records generalizing n with
  | nil => rw [examined_nil]; simp
  | cons r rest ih =>
    cases n with
    | zero => rw [examined_zero]; simp
    | succ n =>
      by_cases h : accepts r = true
      · rw [examined_succ_pos n rest h, List.take_succ_cons, List.filter_cons_of_pos h,
          List.filter_cons_of_pos h, List.take_succ_cons, ih]
      · rw [examined_succ_neg n rest (by simpa using h), List.take_succ_cons,
          List.filter_cons_of_neg h, List.filter_cons_of_neg h, ih]

/-- Behind the cut are the other matches. -/
theorem filter_drop_examined (n : Nat) (records : List Record) :
    (records.drop (examined accepts n records)).filter accepts = (records.filter accepts).drop n := by
  induction records generalizing n with
  | nil => rw [examined_nil]; simp
  | cons r rest ih =>
    cases n with
    | zero => rw [examined_zero]; simp
    | succ n =>
      by_cases h : accepts r = true
      · rw [examined_succ_pos n rest h, List.drop_succ_cons, List.filter_cons_of_pos h,
          List.drop_succ_cons, ih]
      · rw [examined_succ_neg n rest (by simpa using h), List.drop_succ_cons,
          List.filter_cons_of_neg h, ih]

/-- Two lists are looked through one after the other. -/
theorem examined_append (n : Nat) (front back : List Record) :
    examined accepts n (front ++ back) =
      examined accepts n front + examined accepts (n - (front.filter accepts).length) back := by
  induction front generalizing n with
  | nil => rw [examined_nil]; simp
  | cons r front ih =>
    cases n with
    | zero => rw [examined_zero, examined_zero, Nat.zero_sub, examined_zero]
    | succ n =>
      rw [List.cons_append]
      by_cases h : accepts r = true
      · rw [examined_succ_pos n _ h, examined_succ_pos n _ h, ih, List.filter_cons_of_pos h,
          List.length_cons, Nat.add_sub_add_right, Nat.add_right_comm]
      · have h' : accepts r = false := by simpa using h
        rw [examined_succ_neg n _ h', examined_succ_neg n _ h', ih, List.filter_cons_of_neg h,
          Nat.add_right_comm]

/-- To look for more matches is to go on from the cut. -/
theorem examined_add (m n : Nat) (records : List Record) :
    examined accepts (m + n) records = examined accepts m records +
      examined accepts n (records.drop (examined accepts m records)) := by
  induction records generalizing m with
  | nil => simp only [examined_nil, List.drop_nil, Nat.add_zero]
  | cons r rest ih =>
    cases m with
    | zero => rw [examined_zero, Nat.zero_add, Nat.zero_add, List.drop_zero]
    | succ m =>
      rw [Nat.add_right_comm]
      by_cases h : accepts r = true
      · rw [examined_succ_pos _ _ h, examined_succ_pos _ _ h, ih, List.drop_succ_cons,
          Nat.add_right_comm]
      · have h' : accepts r = false := by simpa using h
        rw [examined_succ_neg _ _ h', examined_succ_neg _ _ h', Nat.add_right_comm m n 1, ih,
          List.drop_succ_cons, Nat.add_right_comm]

/-- Where there are too few matches, all records are looked at. -/
theorem examined_of_length_lt {n : Nat} {records : List Record}
    (few : (records.filter accepts).length < n) : examined accepts n records = records.length := by
  induction records generalizing n with
  | nil => exact examined_nil n
  | cons r rest ih =>
    cases n with
    | zero => exact absurd few (Nat.not_lt_zero _)
    | succ n =>
      by_cases h : accepts r = true
      · rw [List.filter_cons_of_pos h, List.length_cons] at few
        rw [examined_succ_pos n rest h, ih (by omega), List.length_cons]
      · rw [List.filter_cons_of_neg h] at few
        rw [examined_succ_neg n rest (by simpa using h), ih few, List.length_cons]

/-- Where everything matches, the cut is at the number itself. -/
theorem examined_all {n : Nat} {records : List Record} (all : ∀ r ∈ records, accepts r = true) :
    examined accepts n records = min n records.length := by
  induction records generalizing n with
  | nil => rw [examined_nil]; simp
  | cons r rest ih =>
    cases n with
    | zero => rw [examined_zero]; simp
    | succ n =>
      rw [examined_succ_pos n rest (all r List.mem_cons_self),
        ih fun r' hr' => all r' (List.mem_cons_of_mem r hr'), List.length_cons, Nat.add_min_add_right]

/-- No more than the beginning that has enough matches is looked at. -/
theorem examined_le {n m : Nat} {records : List Record}
    (enough : n ≤ ((records.take m).filter accepts).length) : examined accepts n records ≤ m := by
  have cut := @examined_append accepts n (records.take m) (records.drop m)
  rw [List.take_append_drop, Nat.sub_eq_zero_of_le enough, examined_zero, Nat.add_zero] at cut
  rw [cut]
  exact Nat.le_trans (examined_le_length n _) (List.length_take_le m records)

/-- All of a beginning with too few matches is looked at, and more if there is more. -/
theorem lt_examined {n m : Nat} {records : List Record}
    (few : ((records.take m).filter accepts).length < n) (inside : m < records.length) :
    m < examined accepts n records := by
  have cut := @examined_append accepts n (records.take m) (records.drop m)
  rw [List.take_append_drop, examined_of_length_lt few, List.length_take,
    Nat.min_eq_left (Nat.le_of_lt inside)] at cut
  -- something is still wanted, and there is a record to look at
  obtain ⟨wanted, more⟩ : ∃ k, n - ((records.take m).filter accepts).length = k + 1 :=
    ⟨_, (Nat.succ_pred_eq_of_pos (Nat.sub_pos_of_lt few)).symm⟩
  rcases rest : records.drop m with - | ⟨r, back⟩
  · have := congrArg List.length rest
    rw [List.length_drop, List.length_nil] at this
    omega
  · rw [rest, more, examined] at cut
    omega

/-! ### The match at some place -/

/-- At index `i` of the records there is a match, and in front of it there are `n` others. -/
structure MatchAt (accepts : Record → Bool) (records : List Record) (n i : Nat) : Prop where
  found : ∃ r, records[i]? = some r ∧ accepts r = true
  before : ((records.take i).filter accepts).length = n

/-- The records, cut at a match. -/
theorem MatchAt.split {records : List Record} {n i : Nat} (place : MatchAt accepts records n i) :
    ∃ r, accepts r = true ∧ i < records.length ∧ records = records.take i ++ r :: records.drop (i + 1) := by
  obtain ⟨r, at_i, matching⟩ := place.found
  obtain ⟨inside, rfl⟩ := List.getElem?_eq_some_iff.mp at_i
  refine ⟨records[i], matching, inside, ?_⟩
  rw [← List.drop_eq_getElem_cons inside, List.take_append_drop]

theorem MatchAt.lt_length_filter {records : List Record} {n i : Nat} (place : MatchAt accepts records n i) :
    n < (records.filter accepts).length := by
  obtain ⟨r, matching, -, split⟩ := place.split
  rw [split, List.filter_append, List.length_append, place.before, List.filter_cons_of_pos matching,
    List.length_cons]
  omega

/-- A cut right behind a match is the cut behind as many matches as are in front of it, and this one. -/
theorem MatchAt.examined_eq {records : List Record} {n i : Nat} (place : MatchAt accepts records n i) :
    examined accepts (n + 1) records = i + 1 := by
  obtain ⟨r, matching, inside, split⟩ := place.split
  have few : ((records.take i).filter accepts).length < n + 1 := by
    rw [place.before]
    exact Nat.lt_succ_self n
  rw [split, examined_append, examined_of_length_lt few, place.before, Nat.add_sub_cancel_left,
    examined_succ_pos 0 _ matching, examined_zero, List.length_take, Nat.min_eq_left (Nat.le_of_lt inside)]

/-- As many matches as there are, so many places there are. -/
theorem exists_matchAt {n : Nat} {records : List Record} (enough : n < (records.filter accepts).length) :
    ∃ i, MatchAt accepts records n i := by
  induction records generalizing n with
  | nil => exact absurd enough (Nat.not_lt_zero n)
  | cons r rest ih =>
    -- a place among the others is one further back here
    have further {m i : Nat} (place : MatchAt accepts rest m i)
        (count : ((r :: rest.take i).filter accepts).length = n) : MatchAt accepts (r :: rest) n (i + 1) := by
      refine ⟨?_, ?_⟩
      · rw [List.getElem?_cons_succ]
        exact place.found
      · rwa [List.take_succ_cons]
    by_cases h : accepts r = true
    · rw [List.filter_cons_of_pos h, List.length_cons] at enough
      cases n with
      | zero => exact ⟨0, ⟨r, rfl, h⟩, rfl⟩
      | succ n =>
        obtain ⟨i, place⟩ := ih (Nat.lt_of_succ_lt_succ enough)
        refine ⟨i + 1, further place ?_⟩
        rw [List.filter_cons_of_pos h, List.length_cons, place.before]
    · rw [List.filter_cons_of_neg h] at enough
      obtain ⟨i, place⟩ := ih enough
      refine ⟨i + 1, further place ?_⟩
      rw [List.filter_cons_of_neg h, place.before]

/-! ### Pages -/

/-- The raw offset at which page `k` begins. -/
def boundary (accepts : Record → Bool) (limit : Nat) (records : List Record) (k : Nat) : Nat :=
  examined accepts (k * limit) records

/-- A page that begins in front of these records is told to have more behind it: the batch in which it ends
is not the last one, or holds another match. -/
def moreBehind (accepts : Record → Bool) (limit : Nat) (records : List Record) : Bool :=
  let stop := (examined accepts limit records + limit - 1) / limit * limit
  decide (stop < records.length) || decide (limit < ((records.take stop).filter accepts).length)

theorem boundary_zero (limit : Nat) (records : List Record) :
    boundary accepts limit records 0 = 0 := by
  rw [boundary, Nat.zero_mul, examined_zero]

/-- The next page begins where enough has been looked at for this one. -/
theorem boundary_succ (limit : Nat) (records : List Record) (k : Nat) :
    boundary accepts limit records (k + 1) = boundary accepts limit records k +
      examined accepts limit (records.drop (boundary accepts limit records k)) := by
  rw [boundary, Nat.add_one_mul, examined_add]
  rfl

theorem boundary_le_length (limit : Nat) (records : List Record) (k : Nat) :
    boundary accepts limit records k ≤ records.length := examined_le_length _ records

/-- Behind the beginning of a page are the matches from its first one on. -/
theorem filter_drop_boundary (limit : Nat) (records : List Record) (k : Nat) :
    (records.drop (boundary accepts limit records k)).filter accepts =
      (records.filter accepts).drop (k * limit) := filter_drop_examined _ records

/-- The end of the batch that holds this raw offset. -/
theorem batch_end {limit j e : Nat} (after : j * limit < e) (upto : e ≤ (j + 1) * limit) :
    (e + limit - 1) / limit * limit = (j + 1) * limit := by
  have quotient : (e + limit - 1) / limit = j + 1 := by
    rw [Nat.add_one_mul] at upto
    apply Nat.div_eq_of_lt_le
    · rw [Nat.add_one_mul]
      omega
    · rw [Nat.add_one_mul, Nat.add_one_mul]
      omega
  rw [quotient]

theorem le_batch_end {limit : Nat} (positive : 0 < limit) (e : Nat) :
    e ≤ (e + limit - 1) / limit * limit := by
  have parts := Nat.div_add_mod' (e + limit - 1) limit
  have rest := Nat.mod_lt (e + limit - 1) positive
  omega

theorem length_filter_take_le (n : Nat) (records : List Record) :
    ((records.take n).filter accepts).length ≤ (records.filter accepts).length :=
  ((List.take_sublist n records).filter accepts).length_le

/-- A page that is told to have nothing behind it is the last one. -/
theorem length_le_of_not_moreBehind {limit : Nat} {records : List Record}
    (last : moreBehind accepts limit records = false) : (records.filter accepts).length ≤ limit := by
  rw [moreBehind, Bool.or_eq_false_iff, decide_eq_false_iff_not, decide_eq_false_iff_not] at last
  obtain ⟨all, few⟩ := last
  rw [List.take_of_length_le (Nat.not_lt.mp all)] at few
  exact Nat.not_lt.mp few

/-- A page that is told to have more behind it is full. -/
theorem le_length_of_moreBehind {limit : Nat} {records : List Record} (positive : 0 < limit)
    (more : moreBehind accepts limit records = true) : limit ≤ (records.filter accepts).length := by
  rcases Nat.lt_or_ge (records.filter accepts).length limit with few | enough
  · -- all records have been looked at, so the last batch is the last one
    rw [moreBehind, examined_of_length_lt few, Bool.or_eq_true, decide_eq_true_eq,
      decide_eq_true_eq] at more
    rcases more with more | more
    · have := le_batch_end positive records.length
      omega
    · have := @length_filter_take_le accepts
        ((records.length + limit - 1) / limit * limit) records
      omega
  · exact enough

/-- Where everything matches, there is more behind a page exactly if there are more records. -/
theorem moreBehind_all {limit : Nat} {records : List Record} (positive : 0 < limit)
    (all : ∀ r ∈ records, accepts r = true) :
    moreBehind accepts limit records = decide (limit < records.length) := by
  by_cases longer : limit < records.length
  · have stop : (limit + limit - 1) / limit * limit = limit := by
      have := @batch_end limit 0 limit (by omega) (by omega)
      omega
    rw [moreBehind, examined_all all, Nat.min_eq_left (Nat.le_of_lt longer), stop]
    simp [longer]
  · -- the first batch holds all records
    have upto := le_batch_end positive records.length
    have few := @length_filter_take_le accepts
      ((records.length + limit - 1) / limit * limit) records
    have less := List.length_filter_le accepts records
    rw [moreBehind, examined_all all, Nat.min_eq_right (Nat.not_lt.mp longer), decide_eq_false longer,
      Bool.or_eq_false_iff, decide_eq_false_iff_not, decide_eq_false_iff_not]
    omega

end Depot
