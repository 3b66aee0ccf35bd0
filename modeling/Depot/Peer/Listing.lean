import Depot.Http.Response
import Depot.Text.Number

/-!
# A server with a fixed listing

The simplest server that a collection can talk to: it has a list of records and answers every request with
the records from `offset` on, no more than `limit` of them, where no limit or limit zero means all.  What is
no number counts as zero.
-/

namespace Depot.Listing

/-- The records from `offset` on, no more than `limit` of them; limit zero means all. -/
def page (records : List Record) (offset limit : Nat) : List Record :=
  if limit = 0 then records.drop offset else (records.drop offset).take limit

/-- A number in the query of a request. -/
def queryNatural (request : Request) (key : String) : Nat :=
  match request.queryValue? key with
  | some text => (readNatural limit64 text).toOption.getD 0
  | none => 0

/-- The answer to a request. -/
def answer (records : List Record) (request : Request) : Response :=
  .ofJson <| .array <|
    (page records (queryNatural request "offset") (queryNatural request "limit")).map Record.toJson

/-- The record with this identifier and this name. -/
def namedRecord (id name : String) : Record :=
  ⟨[("_id", .str id), ("name", .str name)], by
    simp only [Json.isNormal, Json.fieldsAreNormal, Bool.and_self, Bool.and_true, decide_eq_true_eq]
    simp only [Ascending, List.pairwise_cons, List.mem_singleton, forall_eq, List.not_mem_nil,
      false_imp_iff, implies_true, List.Pairwise.nil, and_true]
    decide⟩

/-- Records whose names and identifiers are numbered from zero. -/
def namedRecords (stem : String) (count : Nat) : List Record :=
  (List.range count).map fun i => namedRecord s!"id{i}" s!"{stem}{i}"

end Depot.Listing
