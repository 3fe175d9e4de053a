/-!
# Requests and responses

The parts of messages that the server looks at. Methods and the names of headers are tokens;
names of headers are kept in lower case.
-/

namespace Coursework.Server

/-- A header with its value. -/
abbrev Header := String × String

/-- A character of a token. -/
def isTokenChar (c : Char) : Bool :=
  c.isAlphanum ||
    ['!', '#', '$', '%', '&', '\x27', '*', '+', '-', '.', '^', '_', '\x60', '|', '~'].contains c

/-- A nonempty text of token characters. -/
def isToken (s : String) : Bool := !s.isEmpty && s.toList.all isTokenChar

/-- The name of a header, in lower case. -/
def headerName? (name : String) : Option String :=
  if isToken name && name.utf8ByteSize ≤ 0xFFFF then some name.toLower else none

/-- A value that a header can have: no controls except tabs. -/
def isHeaderValue (value : String) : Bool :=
  value.toList.all fun c => c = '\t' || (0x20 ≤ c.toNat && c.toNat ≠ 0x7F)

/-- What a request is for. A target that only names a host has an empty path. -/
structure Target where
  path : String
  query : Option String
  deriving DecidableEq

/-- Path and query as one text. -/
def Target.text (target : Target) : String :=
  match target.query with
  | some query => target.path ++ "?" ++ query
  | none => target.path

/-- Why a request cannot be made. -/
inductive RequestFault where
  | method
  | headerName
  | headerValue
  | targetEmpty
  | targetTooLong
  | targetScheme
  | targetChar
  | targetFormat
  | targetHost
  deriving DecidableEq

/-- The fault in words. -/
def RequestFault.message : RequestFault → String
  | method => "invalid HTTP method"
  | headerName => "invalid HTTP header name"
  | headerValue => "failed to parse header value"
  | targetEmpty => "empty string"
  | targetTooLong => "uri too long"
  | targetScheme => "scheme too long"
  | targetChar => "invalid uri character"
  | targetFormat => "invalid format"
  | targetHost => "invalid authority"

/-- A request. -/
structure Request where
  method : String
  target : Target
  headers : List Header
  body : String
  deriving DecidableEq

/-- A response. -/
structure Response where
  status : Nat
  headers : List Header
  body : String
  deriving DecidableEq

/-- A response without a body. -/
def Response.empty (status : Nat) (headers : List Header) : Response := ⟨status, headers, ""⟩

end Coursework.Server
