import Coursework.Html.Printer
import Coursework.Route.Site
import Coursework.Server.Proxy

/-!
# The router

Which part of the server answers a request: the backend, the health check, a page, or none. The
first two may be used from other sites, so their responses carry the headers for that. A page is
printed before anything is known of user and course. Responses that are worth compressing say
that they depend on what the client accepts.
-/

namespace Coursework.Server

/-- What answers a path. -/
inductive Endpoint where
  | backend
  | health
  | page
  /-- A file beside the pages; none is there. -/
  | asset
  | nothing
  deriving DecidableEq

/-- The segments of a path as it stands; none if it does not begin with a slash. -/
def segments? (path : String) : Option (List String) :=
  match path.splitOn "/" with
  | "" :: segments => some segments
  | _ => none

/-- The endpoint of a path. -/
def Endpoint.ofPath (path : String) : Endpoint :=
  match segments? path with
  | some [""] => .page
  | some ["healthz"] => .health
  | some ("api" :: first :: rest) => if first = "" ∧ rest.isEmpty then .nothing else .backend
  | some ("pkg" :: _) => .asset
  | some ["course", course] => if course = "" then .nothing else .page
  | some ["course", course, segment] =>
    if course = "" ∨ segment = "" then .nothing else .page
  | _ => .nothing

/-- The state of the store on the server: it is still asked who is signed in. -/
def unresolved : Store := { Store.initial with auth := ⟨none, true⟩ }

/-- The page at a target. -/
def pageHtml (target : Target) : Html :=
  Screen.page (Route.screen (Url.pathname target.text)) unresolved

/-- The header that tells the methods of what can only be read. -/
def allowed : Header := ("allow", "GET,HEAD")

/-- The response of what can only be read. -/
def reading (request : Request) (response : Response) : Response :=
  if request.method = "GET" ∨ request.method = "HEAD" then response
  else .empty 405 [allowed]

/-- The response to a health check. -/
def healthReport (backendUrl : String) : Response where
  status := 200
  headers := [("content-type", "application/json")]
  body := Json.text (.object [("status", .string "ok"), ("backend", .string backendUrl)])

/-- The response with a page. -/
def printedPage (target : Target) : Response where
  status := 200
  headers := [("content-type", "text/html; charset=utf-8")]
  body := Html.print (pageHtml target)

/-- The headers by which every other site may use a response. -/
def sharing : List Header :=
  [("access-control-allow-origin", "*"),
    ("vary", "origin, access-control-request-method, access-control-request-headers")]

/-- The headers by which every other site may make any request. -/
def sharingAll : List Header :=
  [("access-control-allow-headers", "*"), ("access-control-allow-methods", "*")]

/-- A response that other sites may use. The question for what they may do is answered before
anything else is asked. -/
def shared (request : Request) (allow : List Header) (response : Response) : Response :=
  if request.method = "OPTIONS" then .empty 200 (allow ++ sharingAll ++ sharing)
  else
    { response with
      headers :=
        response.headers.filter (·.1 ≠ "access-control-allow-origin") ++ sharing }

/-- The response of an endpoint. -/
def Endpoint.respond (endpoint : Endpoint) (backendUrl : String) (backend : Backend)
    (request : Request) : Response :=
  match endpoint with
  | .backend => shared request [] (forward backendUrl backend request)
  | .health => shared request [allowed] (reading request (healthReport backendUrl))
  | .page => reading request (printedPage request.target)
  | .asset => reading request (.empty 404 [])
  | .nothing => .empty 404 []

/-- The size of a body from which compressing it is worth it. -/
def leastCompressed : Nat := 32

/-- The response with the header that compressing adds. -/
def varied (response : Response) : Response :=
  if leastCompressed ≤ response.body.utf8ByteSize then
    { response with headers := response.headers ++ [("vary", "accept-encoding")] }
  else response

/-- The response without its body if only its head is asked for. -/
def cropped (request : Request) (response : Response) : Response :=
  if request.method = "HEAD" then { response with body := "" } else response

/-- The response to a request. -/
def respond (backendUrl : String) (backend : Backend) (request : Request) : Response :=
  cropped request
    (varied ((Endpoint.ofPath request.target.path).respond backendUrl backend request))

end Coursework.Server
