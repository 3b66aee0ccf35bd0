import Depot.Http.Api
import Depot.Upload.Session

/-!
# Settings

The settings of a client come in layers, each of which may set some of them.  They are put on one after the
other over the built-in settings, so the last layer that sets something decides (`Layer.applyTo`,
`Settings.ofLayers`).

A chunk without a byte would take a file nowhere, so a layer that sets the chunk size to zero does not set
it.
-/

namespace Depot

/-- The settings of a client. -/
structure Settings where
  /-- The address of the API. -/
  apiUrl : String
  token : Option String
  /-- How many seconds to wait for an answer. -/
  requestTimeout : Nat
  userAgent : String
  /-- How many records make a page. -/
  pageLimit : Nat
  /-- How many bytes to send at a time. -/
  chunkSize : Nat
  deriving DecidableEq

namespace Settings

/-- The settings where nothing is set. -/
def builtIn : Settings :=
  { apiUrl := "http://localhost:8080/api/v1"
    token := none
    requestTimeout := 30
    userAgent := Api.defaultUserAgent
    pageLimit := 50
    chunkSize := ChunkSize.default.bytes }

instance : Inhabited Settings := ⟨builtIn⟩

/-- What is set in one place. -/
structure Layer where
  apiUrl : Option String
  token : Option String
  requestTimeout : Option Nat
  userAgent : Option String
  pageLimit : Option Nat
  chunkSize : Option Nat
  deriving DecidableEq

namespace Layer

/-- Nothing is set. -/
def empty : Layer := ⟨none, none, none, none, none, none⟩

instance : Inhabited Layer := ⟨empty⟩

/-- The chunk size that is set, if it is one. -/
def usableChunkSize (l : Layer) : Option Nat := l.chunkSize.filter (0 < ·)

/-- The settings with a layer over them. -/
def applyTo (l : Layer) (s : Settings) : Settings :=
  { apiUrl := l.apiUrl.getD s.apiUrl
    token := l.token.or s.token
    requestTimeout := l.requestTimeout.getD s.requestTimeout
    userAgent := l.userAgent.getD s.userAgent
    pageLimit := l.pageLimit.getD s.pageLimit
    chunkSize := l.usableChunkSize.getD s.chunkSize }

end Layer

/-- The settings with these layers, the lowest one first. -/
def ofLayers (layers : List Layer) : Settings := layers.foldl (fun s l => l.applyTo s) builtIn

end Settings

end Depot
