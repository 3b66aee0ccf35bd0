import Depot.Cli.Arguments
import Depot.Cli.Told
import Depot.Text.Lowercase

/-!
# Listing records

The command `list` shows the first page of a listing, and then as many more as were asked for and are
there.  Records may be filtered by their names, without regard to the case of the letters (`Record.nameContains`).
-/

namespace Depot

/-- The record has a name, and the text is inside it when both are in small letters. -/
def Record.nameContains (needle : String) (r : Record) : Bool :=
  r.name?.any fun name => hasInside (lowercase name.toList) (lowercase needle.toList)

end Depot

namespace Depot.Cli

namespace ListOptions

/-- The collection that is shown. -/
def collection (o : ListOptions) (settings : Settings) : Collection :=
  .new {
    resource := o.resource
    pageLimit := o.limit.getD settings.pageLimit
    sortField := o.sort
    sortDir := if o.descending then .descending else .ascending
    filter := o.nameContains.map Record.nameContains }

end ListOptions

/-- The line of a record. -/
def recordLine (r : Record) : String := r.id?.getD "" ++ "\t" ++ r.name?.getD ""

/-- The lines of a page. -/
def pageLines (number : Nat) (records : List Record) : List String :=
  s!"# page {number} ({records.length} records)" :: records.map recordLine

/-- What a call of a collection comes to. -/
def showPage (number : Nat) (outcome : Collection.Fetched × Collection) :
    Dialogue Told (Except Failure Collection) :=
  match outcome with
  | (.committed, c) => do
    printAll (pageLines number c.records)
    return .ok c
  | (.failed cause, _) => return .error (.request cause)
  | (.unfinished, _) => return .error .unfinished

/-- Show at most so many more pages. -/
def showMore (patience : Nat) : (more : Nat) → (number : Nat) → Collection →
    Dialogue Told (Except Failure Unit)
  | 0, _, _ => return .ok ()
  | more + 1, number, c =>
    if c.hasNextPage then do
      match ← showPage number (← (c.fetchNext patience .empty).mapEvents .collection) with
      | .ok c => showMore patience more (number + 1) c
      | .error e => return .error e
    else return .ok ()

/-- Show a listing. -/
def runList (patience : Nat) (settings : Settings) (o : ListOptions) :
    Dialogue Told (Except Failure Unit) := do
  let c := o.collection settings
  match ← showPage 1 (← (c.fetch patience (.ofList o.params) true).mapEvents .collection) with
  | .ok c => showMore patience (o.pages - 1) 2 c
  | .error e => return .error e

end Depot.Cli
