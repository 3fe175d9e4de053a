import Coursework.Json.Printer
import Coursework.Server.Target
import Coursework.Text.Blank
import Coursework.Url.Reader

/-!
# Passing requests to the backend

A request for the backend is sent on under the backend's address, and the answer is sent back.
In both directions the headers that belong to one connection only are left out. When the backend
gives no answer, the response says why.

The backend itself is a function that answers a request or none. Nothing here depends on how the
request travels.
-/

namespace Coursework.Server

/-- The address at the backend: one slash between the address of the backend and the path. -/
def backendAddress (backendUrl target : String) : String :=
  Text.dropEndWhile (· = '/') backendUrl ++ "/" ++ Text.dropStartWhile (· = '/') target

/-- The headers that belong to one connection. -/
def connectionHeaders : List String :=
  ["connection", "host", "content-length", "proxy-authenticate", "proxy-authorization", "te",
    "trailer", "transfer-encoding", "upgrade", "keep-alive"]

/-- A header of this name, in lower case, is sent on. -/
def isForwardable (name : String) : Bool := !connectionHeaders.contains name

/-- The headers that are sent on. -/
def forwardable (headers : List Header) : List Header :=
  headers.filter fun (name, _) => isForwardable name

/-- The greatest size of a body that is sent on, in bytes. -/
def greatestBody : Nat := 10 * 1024 * 1024

/-- Why the backend's answer cannot be sent back. -/
inductive ProxyFault where
  | body (reason : String)
  | unreachable (reason : String)
  | answer (reason : String)
  deriving DecidableEq

namespace ProxyFault

/-- The fault in words. -/
def message : ProxyFault → String
  | body reason => "request body unreadable: " ++ reason
  | unreachable reason => "backend unreachable: " ++ reason
  | answer reason => "backend response unreadable: " ++ reason

/-- The response that tells of the fault. -/
def response (fault : ProxyFault) : Response where
  status := 502
  headers := [("content-type", "application/json")]
  body := Json.text (.object [("error", .string fault.message)])

end ProxyFault

/-- A request to the backend. -/
structure BackendRequest where
  method : String
  url : Url
  headers : List Header
  body : String
  deriving DecidableEq

/-- What answers requests; none if it cannot be reached. -/
abbrev Backend := BackendRequest → Option Response

/-- The text is a percent-coded text, not only bytes. -/
def isDecodable (text : String) : Bool := (Url.percentDecode? text).isSome

/-- Credentials that go into a header of their own. -/
def areSent (credentials : Url.Credentials) : Bool :=
  isDecodable credentials.name &&
    (credentials.name ≠ "" || credentials.password.any isDecodable)

/-- The address without the credentials that go into a header of their own. -/
def withoutCredentials (url : Url) : Url :=
  { url with
    authority := url.authority.map fun authority =>
      { authority with credentials := authority.credentials.filter (!areSent ·) } }

/-- The address can be called: it is one of the web, and also a target. -/
def isCallable (url : Url) : Bool :=
  url.hasHost && ["http", "https"].contains url.scheme && (Target.read url.text).isOk

/-- The address of the backend for a target. -/
def callUrl (backendUrl : String) (target : Target) : Except ProxyFault Url :=
  match (Url.parse? (backendAddress backendUrl target.text)).map withoutCredentials with
  | none => .error (.unreachable "builder error")
  | some url =>
    if isCallable url then .ok url
    else .error (.unreachable ("builder error for url (" ++ url.text ++ ")"))

/-- The request that is sent on. -/
def backendRequest (backendUrl : String) (request : Request) :
    Except ProxyFault BackendRequest := do
  if greatestBody < request.body.utf8ByteSize then .error (.body "length limit exceeded")
  else
    let url ← callUrl backendUrl request.target
    return ⟨request.method, url, forwardable request.headers, request.body⟩

/-- The backend's answer to a request. -/
def exchange (backendUrl : String) (backend : Backend) (request : Request) :
    Except ProxyFault Response := do
  let sent ← backendRequest backendUrl request
  match backend sent with
  | some answer => return { answer with headers := forwardable answer.headers }
  | none => .error (.unreachable ("error sending request for url (" ++ sent.url.text ++ ")"))

/-- The response to a request that is sent on. -/
def forward (backendUrl : String) (backend : Backend) (request : Request) : Response :=
  match exchange backendUrl backend request with
  | .ok response => response
  | .error fault => fault.response

end Coursework.Server
