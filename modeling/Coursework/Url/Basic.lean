/-!
# Addresses

An address by its parts. Where it names a host, credentials may stand before the host and a port
after it.
-/

namespace Coursework

namespace Url

/-- Who asks a host. -/
structure Credentials where
  name : String
  password : Option String
  deriving DecidableEq

/-- What an address says of its host. The name of the host may be empty. -/
structure Authority where
  credentials : Option Credentials
  host : String
  /-- The port, if it is not that of the scheme. -/
  port : Option Nat
  deriving DecidableEq

end Url

/-- An address. -/
structure Url where
  scheme : String
  authority : Option Url.Authority
  path : String
  query : Option String
  fragment : Option String
  deriving DecidableEq

namespace Url

/-- Credentials as they stand before a host. -/
def Credentials.text (credentials : Credentials) : String :=
  let password := match credentials.password with
    | some password => ":" ++ password
    | none => ""
  credentials.name ++ password ++ "@"

/-- What an address says of its host, as it stands after the two slashes. -/
def Authority.text (authority : Authority) : String :=
  let credentials := match authority.credentials with
    | some credentials => credentials.text
    | none => ""
  let port := match authority.port with
    | some port => ":" ++ toString port
    | none => ""
  credentials ++ authority.host ++ port

/-- What stands between scheme and path. A path of two slashes at the start is told from a host by
a segment of one dot. -/
def authorityText (url : Url) : String :=
  match url.authority with
  | some authority => "//" ++ authority.text
  | none => if url.path.startsWith "//" then "/." else ""

/-- The address as a text. -/
def text (url : Url) : String :=
  let query := match url.query with
    | some query => "?" ++ query
    | none => ""
  let fragment := match url.fragment with
    | some fragment => "#" ++ fragment
    | none => ""
  url.scheme ++ ":" ++ url.authorityText ++ url.path ++ query ++ fragment

/-- The address names a host. -/
def hasHost (url : Url) : Bool := url.authority.any (·.host ≠ "")

end Url

end Coursework
