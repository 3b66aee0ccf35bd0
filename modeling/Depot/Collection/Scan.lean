import Depot.Record

/-!
# Putting a page together

The server cuts a listing into raw batches before any filter of the client runs, so a page of `limit`
matches may take several batches and end in the middle of one.  A batch is asked to be one record longer
than a page, and that record only shows that there is more.

* `Scan` is a page that is not full yet: the matches so far and the raw offset behind the last batch;
* `absorb` takes one more batch into it and says whether the page is complete;
* `Page` is a complete page: its records, the raw offset behind the last record that was examined for it,
  and whether there is more.

A page that is full ends right behind its last match, so nothing is examined twice or skipped.  A page that
is not full has seen the listing to its end.  Limit zero asks for everything in one batch.
-/

namespace Depot

/-- A page that is not complete. -/
structure Scan where
  /-- The raw offset behind the last batch. -/
  offset : Nat
  /-- The matches so far. -/
  found : List Record

/-- A complete page. -/
structure Page where
  records : List Record
  /-- The raw offset behind the last record examined. -/
  offset : Nat
  hasMore : Bool

/-- How many records have to be examined for so many matches. -/
def examined (accepts : Record → Bool) : Nat → List Record → Nat
  | 0, _ => 0
  | _ + 1, [] => 0
  | n + 1, r :: rest => examined accepts (if accepts r then n else n + 1) rest + 1

namespace Scan

/-- Nothing found yet. -/
def start (offset : Nat) : Scan := ⟨offset, []⟩

/-- What one more batch makes of a scan. -/
inductive Absorbed where
  | complete (page : Page)
  | ongoing (scan : Scan)

/-- Take one more batch in. -/
def absorb (limit : Nat) (accepts : Record → Bool) (s : Scan) (batch : List Record) : Absorbed :=
  let longer := decide (0 < limit ∧ limit < batch.length)
  let batch := if longer then batch.take limit else batch
  let found := batch.filter accepts
  let room := limit - s.found.length
  if 0 < limit ∧ limit ≤ s.found.length + found.length then
    .complete {
      records := s.found ++ found.take room
      offset := s.offset + examined accepts room batch
      hasMore := longer || decide (room < found.length) }
  else
    let s : Scan := ⟨s.offset + batch.length, s.found ++ found⟩
    if longer then .ongoing s else .complete ⟨s.found, s.offset, false⟩

end Scan

end Depot
