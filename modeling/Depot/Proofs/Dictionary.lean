import Depot.Dictionary

/-!
# What a dictionary holds

* `get?_insert`: under the key that was put in stands its value, under every other key what stood there;
* `get?_erase`, `get?_override`: under a key that was dropped stands nothing, and of two dictionaries the second
  one wins;
* `ofList_ascending`: pairs that ascend already are the entries of the dictionary made of them.
-/

namespace Depot

variable {α : Type}

theorem lookup_cons (k other : String) (v : α) (rest : List (String × α)) :
    ((k, v) :: rest).lookup other = if other = k then some v else rest.lookup other := by
  rw [List.lookup_cons]
  by_cases same : other = k
  · rw [if_pos same, beq_iff_eq.mpr same]
  · rw [if_neg same, beq_eq_false_iff_ne.mpr same]

theorem lookup_insertSorted (key other : String) (value : α) (entries : List (String × α)) :
    (insertSorted key value entries).lookup other =
      if other = key then some value else entries.lookup other := by
  induction entries with
  | nil => rw [insertSorted, lookup_cons]
  | cons e rest ih =>
    obtain ⟨k, v⟩ := e
    rw [insertSorted]
    split
    · rw [lookup_cons]
    split
    · next after =>
      -- the entry in front keeps its place, and its key is not the new one
      have apart : k ≠ key := fun same => String.lt_irrefl key (same ▸ after)
      rw [lookup_cons, ih, lookup_cons]
      by_cases here : other = k
      · subst here
        rw [if_pos rfl, if_neg apart, if_pos rfl]
      · rw [if_neg here, if_neg here]
    · next before after =>
      have same : k = key := String.le_antisymm (String.not_lt.mp before) (String.not_lt.mp after)
      subst same
      rw [lookup_cons, lookup_cons]
      by_cases here : other = k
      · rw [if_pos here, if_pos here]
      · rw [if_neg here, if_neg here, if_neg here]

theorem insertSorted_last {key : String} {value : α} {entries : List (String × α)}
    (last : ∀ e ∈ entries, e.1 < key) :
    insertSorted key value entries = entries ++ [(key, value)] := by
  induction entries with
  | nil => rfl
  | cons e rest ih =>
    obtain ⟨k, v⟩ := e
    have before : k < key := last _ List.mem_cons_self
    rw [insertSorted, if_neg (String.lt_asymm before), if_pos before,
      ih fun e he => last e (List.mem_cons_of_mem _ he)]
    rfl

/-- Behind a key that ascending entries begin after, there is nothing under it. -/
theorem lookup_eq_none_of_lt {key : String} {entries : List (String × α)}
    (after : ∀ e ∈ entries, key < e.1) : entries.lookup key = none := by
  induction entries with
  | nil => rfl
  | cons e rest ih =>
    have apart : key ≠ e.1 := fun same => String.lt_irrefl key (same ▸ after e List.mem_cons_self)
    rw [lookup_cons, if_neg apart]
    exact ih fun f hf => after f (List.mem_cons_of_mem e hf)

theorem lookup_filter_ne (key other : String) (entries : List (String × α)) :
    (entries.filter (·.1 != key)).lookup other = if other = key then none else entries.lookup other := by
  induction entries with
  | nil =>
    split
    · rfl
    · rfl
  | cons e rest ih =>
    obtain ⟨k, v⟩ := e
    rw [List.filter_cons]
    by_cases dropped : k = key
    · subst dropped
      rw [if_neg (by simp), ih, lookup_cons]
      by_cases same : other = k
      · rw [if_pos same, if_pos same]
      · rw [if_neg same, if_neg same, if_neg same]
    · rw [if_pos (bne_iff_ne.mpr dropped), lookup_cons, ih, lookup_cons]
      by_cases here : other = k
      · rw [if_pos here, if_neg (here ▸ dropped), if_pos here]
      · rw [if_neg here, if_neg here]

namespace Dictionary

theorem get?_insert (d : Dictionary α) (key other : String) (value : α) :
    (d.insert key value).get? other = if other = key then some value else d.get? other :=
  lookup_insertSorted key other value d.entries

@[simp] theorem get?_insert_self (d : Dictionary α) (key : String) (value : α) :
    (d.insert key value).get? key = some value := by
  rw [get?_insert, if_pos rfl]

@[simp] theorem get?_empty (key : String) : (empty : Dictionary α).get? key = none := rfl

theorem get?_erase (d : Dictionary α) (key other : String) :
    (d.erase key).get? other = if other = key then none else d.get? other :=
  lookup_filter_ne key other d.entries

theorem get?_foldl_insert {pairs : List (String × α)} (ascending : Ascending pairs) (d : Dictionary α)
    (key : String) : (pairs.foldl (fun d e => d.insert e.1 e.2) d).get? key =
      (pairs.lookup key).or (d.get? key) := by
  induction pairs generalizing d with
  | nil => rfl
  | cons e rest ih =>
    obtain ⟨after, ascending⟩ := List.pairwise_cons.mp ascending
    rw [List.foldl_cons, ih ascending, get?_insert, lookup_cons]
    by_cases here : key = e.1
    · -- the key does not come again, so what was put in last is what stands under it
      have once : rest.lookup key = none := lookup_eq_none_of_lt fun f hf => here ▸ after f hf
      rw [if_pos here, if_pos here, once]
      rfl
    · rw [if_neg here, if_neg here]

/-- **The second dictionary wins** where it has the key. -/
theorem get?_override (d other : Dictionary α) (key : String) :
    (d.override other).get? key = (other.get? key).or (d.get? key) :=
  get?_foldl_insert other.ascending d key

theorem entries_foldl_insert {pairs : List (String × α)} {d : Dictionary α}
    (ascending : Ascending (d.entries ++ pairs)) :
    (pairs.foldl (fun d e => d.insert e.1 e.2) d).entries = d.entries ++ pairs := by
  induction pairs generalizing d with
  | nil => simp
  | cons e rest ih =>
    have last : ∀ f ∈ d.entries, f.1 < e.1 := fun f hf =>
      (List.pairwise_append.mp ascending).2.2 f hf e List.mem_cons_self
    have entries : (d.insert e.1 e.2).entries = d.entries ++ [e] := insertSorted_last last
    rw [List.foldl_cons, ih]
    · rw [entries, List.append_assoc, List.singleton_append]
    · rwa [entries, List.append_assoc, List.singleton_append]

/-- Pairs that ascend are the entries of their dictionary. -/
theorem ofList_ascending {pairs : List (String × α)} (ascending : Ascending pairs) :
    (ofList pairs).entries = pairs := by
  have all : (ofList pairs).entries = [] ++ pairs := entries_foldl_insert (d := empty) ascending
  rw [all, List.nil_append]

end Dictionary

end Depot
