import Depot.Peer.Fault
import Depot.Proofs.Collection.Page
import Depot.Proofs.Http.Response
import Depot.Proofs.Text.Number

/-!
# The listing server serves its listing

`Listing.answer` gives a batch as the listing has it, through the text of the request and the text of the
answer, and a connection adds only its own failures (`serves_over`).  A limit that is no number for the
server counts as none, and the listing is shorter than that.
-/

namespace Depot.Listing

/-- The server with a fixed listing; nothing that it is asked changes it. -/
def peer (listing : List Record) : Peer Unit := fun request s => (.ok (answer listing request), s)

variable {listing : List Record} {limit : Nat}

/-- The server finds the batch that is asked for. -/
theorem page_asked {request : Request} {offset : Nat} (fits : listing.length < limit64)
    (begins : request.queryValue? "offset" = some (toString offset))
    (ends : request.queryValue? "limit" = some (toString limit)) (inside : offset ≤ listing.length) :
    page listing (queryNatural request "offset") (queryNatural request "limit") =
      page listing offset limit := by
  rw [queryNatural_eq begins (Nat.lt_of_le_of_lt inside fits)]
  rcases Nat.lt_or_ge limit limit64 with small | big
  · rw [queryNatural_eq ends small]
  · -- the server gives all that is left, which is no more than was asked for
    have rest : (listing.drop offset).length ≤ limit := by
      rw [List.length_drop]
      omega
    rw [queryNatural_tooLarge ends big, page, if_pos rfl, page, if_neg (by omega),
      List.take_of_length_le rest]

theorem records_answer (deep : ∀ r ∈ listing, r.toJson.depth < Json.Document.depthLimit)
    (request : Request) :
    (answer listing request).records =
      .ok (page listing (queryNatural request "offset") (queryNatural request "limit")) := by
  apply Response.records_ofJson
  intro r hr
  apply deep
  rw [page] at hr
  split at hr
  · exact List.mem_of_mem_drop hr
  · exact List.mem_of_mem_drop (List.mem_of_mem_take hr)

/-- **Over any connection** the server serves its listing, and only the connection fails. -/
theorem serves_over (schedule : Schedule) (contents : String → Option Bytes)
    (deep : ∀ r ∈ listing, r.toJson.depth < Json.Document.depthLimit)
    (fits : listing.length < limit64) :
    Serves (schedule.environment (peer listing) contents) listing limit (fun cause =>
      ∃ n, schedule.exchange n = .requestLost cause ∨ schedule.exchange n = .replyLost cause) := by
  intro request offset t begins ends inside
  have reply : ((schedule.environment (peer listing) contents).send request t).1.outcome =
      (Schedule.exchanged (peer listing) request t.peer (schedule.exchange t.exchanges)).1 := rfl
  have heard : (peer listing request t.peer).1.bind Response.records = _ := records_answer deep request
  rw [reply]
  rcases fate : schedule.exchange t.exchanges with - | cause | cause
  · rw [Schedule.exchanged, heard]
    exact page_asked fits begins ends inside
  · exact ⟨t.exchanges, .inl fate⟩
  · exact ⟨t.exchanges, .inr fate⟩

/-- Where nothing goes wrong, nothing fails. -/
theorem serves_calm (contents : String → Option Bytes)
    (deep : ∀ r ∈ listing, r.toJson.depth < Json.Document.depthLimit)
    (fits : listing.length < limit64) :
    Serves (Schedule.calm.environment (peer listing) contents) listing limit (fun _ => False) := by
  refine (serves_over .calm contents deep fits).mono ?_
  rintro cause ⟨n, lost | lost⟩
  · cases lost
  · cases lost

end Depot.Listing
