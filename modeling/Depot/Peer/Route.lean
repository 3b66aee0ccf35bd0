import Depot.Http.Request

/-!
# What the server is asked for

The requests of an upload that go to the server, told apart by method and path.
-/

namespace Depot.Route

/-- The request opens an upload: of a new file, or of new contents. -/
def isInitiation (request : Request) : Bool :=
  (request.method = "POST" ∧ request.target = .path "file") ∨ request.method = "PUT"

/-- The request brings a chunk, or asks for a part to be authorized. -/
def isChunk (request : Request) : Bool :=
  request.method = "POST" ∧ request.target = .path "file/chunk"

/-- The request asks how many bytes have landed. -/
def asksLanded (request : Request) : Bool :=
  request.method = "GET" ∧ request.target = .path "file/offset"

/-- The request says that all bytes have been sent. -/
def isCompletion (request : Request) : Bool :=
  request.method = "POST" ∧ request.target = .path "file/completion"

/-- The request has the server drop something. -/
def isRelease (request : Request) : Bool :=
  request.method = "DELETE" ∧ request.isApiRequest

end Depot.Route
