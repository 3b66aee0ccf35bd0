import Depot.Collection.OffsetStack
import Depot.Collection.Scan
import Depot.Dialogue
import Depot.Event.Basic
import Depot.Text.Number

/-!
# Collections

A `Collection` shows the records of a listing page by page, with a filter of the client's own if it has one.
Its settings are fixed; its state is what it shows and where that is in the listing.

* `fetch` shows the page at the present offset, or the first one;
* `fetchNext` and `fetchPrevious` go on and back, with the parameters of the last page and new ones;
* `reset` forgets everything.

A page is put together completely before anything changes (`assemble`), and then all changes at once
(`commit`).  So a call that fails leaves the collection as it was and tells nothing, and what the observers
are told is what the collection shows.

With a filter, and unless pages are appended to what is shown, the collection keeps the offset of every page
on the way (`tracksPages`), and goes back by it; otherwise it counts.

A server that always has more but never a match would keep a call going for ever, so a call is given a
number of batches after which it stops `unfinished`.

Records are counted in natural numbers.  What is said of a collection is meant for counts of 64 bits: a page and
one record more (`Config.batchLimit`), and a page and all that is shown before it (`planPrevious`), are below
`limit64`.  Where a count is signed, a limit that does not fit is negative (`Config.divisor`).
-/

namespace Depot

open Dialogue (ask tell tellAll)

/-- Parameters of a listing. -/
abbrev Params := Dictionary String

/-- In which direction a listing is sorted. -/
inductive SortDir where
  | ascending
  | descending
  deriving DecidableEq

/-- The direction as a parameter of a request. -/
def SortDir.param : SortDir → String
  | ascending => "1"
  | descending => "-1"

/-- What is fixed when a collection is made. -/
structure Collection.Config where
  /-- The path of the listing. -/
  resource : String
  /-- The path to use instead. -/
  altUrl : Option String := none
  /-- How many records make a page; zero for all.  A number of 64 bits, and not the last of them. -/
  pageLimit : Nat := 50
  sortField : String := "name"
  sortDir : SortDir := .ascending
  /-- Pages are appended to what is shown. -/
  append : Bool := false
  /-- Which records to show. -/
  filter : Option (Record → Bool) := none
  /-- The observers of committed pages, in the order in which they are told. -/
  extensions : List String := []

/-- A listing as it is shown. -/
structure Collection where
  config : Collection.Config
  /-- The parameters of the last page. -/
  params : Params
  records : List Record
  /-- How many raw records have been consumed. -/
  offset : Nat
  stack : OffsetStack
  hasMore : Bool

/-- What an observer sees of a collection. -/
structure PageWindow where
  records : List Record
  offset : Nat
  hasNextPage : Bool
  hasPreviousPage : Bool
  pageNum : Int
  deriving DecidableEq

/-- What a collection tells while it commits a page. -/
inductive Notice where
  | event (event : CollectionEvent)
  | pageCommitted (extension url : String) (window : PageWindow)
  deriving DecidableEq

namespace Collection

namespace Config

/-- The path of the listing. -/
def url (c : Config) : String := c.altUrl.getD c.resource

/-- A record is to be shown. -/
def accepts (c : Config) : Record → Bool := c.filter.getD fun _ => true

/-- The offsets of the pages are kept. -/
def tracksPages (c : Config) : Bool := c.filter.isSome && !c.append

/-- How many records to ask for at a time: one more than a page, or all. -/
def batchLimit (c : Config) : Nat := if 0 < c.pageLimit then c.pageLimit + 1 else 0

/-- What a count of records is divided by, to count pages.  A count is signed and has 64 bits, where a limit that
does not fit is negative; as many records as do not fit are nowhere, and would be divided by the limit as it is. -/
def divisor (c : Config) (count : Int) : Int :=
  if limit63 ≤ c.pageLimit ∧ count.natAbs < limit63 then c.pageLimit - limit64 else c.pageLimit

/-- The query for a batch.  Parameters may change the sorting, but not which records are asked for. -/
def query (c : Config) (params : Params) (offset : Nat) : Params :=
  let sorting : Params :=
    (Dictionary.empty.insert "sort" c.sortField).insert "sortdir" c.sortDir.param
  (((sorting.override ((params.erase "limit").erase "offset")).insert "limit"
    (toString c.batchLimit)).insert "offset" (toString offset))

/-- The request for a batch. -/
def batchRequest (c : Config) (params : Params) (offset : Nat) : Request :=
  (Request.get c.url).withQueryPairs (c.query params offset).entries

end Config

/-- A collection that has not fetched anything. -/
def new (config : Config) : Collection := ⟨config, .empty, [], 0, .empty, false⟩

instance : Inhabited Collection := ⟨new { resource := "" }⟩

/-! ### What it shows -/

/-- The number of the present page, from zero on; negative if there is none. -/
def pageNum (c : Collection) : Int :=
  if c.config.tracksPages then c.stack.depth - 1
  else if c.config.pageLimit = 0 then 0
  else
    let before : Int := c.offset - c.records.length
    let limit := c.config.divisor before
    before / limit + if before % limit = 0 then 0 else 1

def hasNextPage (c : Collection) : Bool := c.hasMore

def hasPreviousPage (c : Collection) : Bool :=
  if c.config.tracksPages then 0 < c.pageNum else c.records.length < c.offset

/-- All that an observer sees. -/
def window (c : Collection) : PageWindow :=
  ⟨c.records, c.offset, c.hasNextPage, c.hasPreviousPage, c.pageNum⟩

/-- Forget everything that was fetched. -/
def reset (c : Collection) : Collection := new c.config

/-! ### Fetching -/

/-- How a call ends. -/
inductive Fetched where
  | committed
  | failed (cause : HttpError)
  /-- The number of batches was used up before the page was complete. -/
  | unfinished
  deriving DecidableEq

/-- Ask for batch after batch until a page is complete. -/
def assemble (config : Config) (params : Params) :
    (patience : Nat) → Scan → Dialogue Notice (Except Fetched Page)
  | 0, _ => return .error .unfinished
  | patience + 1, s => do
    match (← ask (config.batchRequest params s.offset)).outcome.bind Response.records with
    | .error cause => return .error (.failed cause)
    | .ok batch =>
      match s.absorb config.pageLimit config.accepts batch with
      | .complete page => return .ok page
      | .ongoing s => assemble config params patience s

/-- Where a call begins and what it does to the page numbers. -/
structure Plan where
  /-- The raw offset to begin at. -/
  start : Nat
  /-- The pages before. -/
  stack : OffsetStack
  params : Params
  /-- The numbering of the pages begins anew. -/
  reset : Bool

/-- The collection that shows a page. -/
def commit (c : Collection) (plan : Plan) (page : Page) : Collection :=
  { config := c.config
    params := plan.params
    records := if c.config.append && !plan.reset then c.records ++ page.records else page.records
    offset := page.offset
    stack :=
      if c.config.tracksPages then plan.stack.push plan.start
      else if plan.reset then .empty
      else c.stack
    hasMore := page.hasMore }

/-- What is told about a page, given the collection that shows it. -/
def notices (c : Collection) (plan : Plan) (page : Page) : List Notice :=
  let changed : List Notice :=
    if 0 < page.records.length ∨ plan.reset then
      [.event (.changed c.config.url page.records.length page.offset plan.reset)]
    else []
  changed ++ c.config.extensions.map fun name => .pageCommitted name c.config.url c.window

/-- Show the page of a plan. -/
def carryOut (c : Collection) (patience : Nat) (plan : Plan) :
    Dialogue Notice (Fetched × Collection) := do
  match ← assemble c.config plan.params patience (.start plan.start) with
  | .error outcome => return (outcome, c)
  | .ok page =>
    let shown := c.commit plan page
    tellAll (shown.notices plan page)
    return (.committed, shown)

/-- The page at the present offset, or the first one. -/
def planFetch (c : Collection) (params : Params) (reset : Bool) : Plan :=
  if reset then ⟨0, .empty, params, true⟩ else ⟨c.offset, c.stack, params, false⟩

/-- The page after the present one. -/
def planNext (c : Collection) (params : Params) : Plan :=
  c.planFetch (c.params.override params) false

/-- The page before the present one.  By the stack, this is the second page from the top; by counting, it
begins a page and what is shown before the present offset. -/
def planPrevious (c : Collection) (params : Params) : Plan :=
  let params := c.params.override params
  if c.config.tracksPages then
    let below := c.stack.pop
    ⟨below.current?.getD 0, below.pop, params, false⟩
  else ⟨c.offset - (c.records.length + c.config.pageLimit), c.stack, params, false⟩

/-- Show the page at the present offset, or the first one. -/
def fetch (c : Collection) (patience : Nat) (params : Params) (reset : Bool) :
    Dialogue Notice (Fetched × Collection) := c.carryOut patience (c.planFetch params reset)

/-- Show the page after the present one. -/
def fetchNext (c : Collection) (patience : Nat) (params : Params) :
    Dialogue Notice (Fetched × Collection) := c.carryOut patience (c.planNext params)

/-- Show the page before the present one. -/
def fetchPrevious (c : Collection) (patience : Nat) (params : Params) :
    Dialogue Notice (Fetched × Collection) := c.carryOut patience (c.planPrevious params)

end Collection

end Depot
