import Coursework.Server.Message

/-!
# Reading requests

A target is a path with a query, or a whole address of which the path and the query count, or
only the name of a host. What follows a number sign does not count.
-/

namespace Coursework.Server

namespace Target

/-- A character of a path. -/
def isPathChar (c : Char) : Bool := 0x20 < c.toNat && c ∉ ['<', '>', '\x60', '\x7f']

/-- A character of a query. -/
def isQueryChar (c : Char) : Bool := 0x20 < c.toNat && c ∉ ['\"', '<', '>', '\x7f']

/-- A character of the name of a host that is no mark of its parts. -/
def isHostChar (c : Char) : Bool := c.isAlphanum || "!$&'()*+,-.;=_~".toList.contains c

/-- A character of a scheme. -/
def isSchemeChar (c : Char) : Bool := c.isAlphanum || ['+', '-', '.', '~'].contains c

/-- The longest target, in bytes. -/
def longest : Nat := 0xFFFE

/-- The longest scheme. -/
def longestScheme : Nat := 64

/-- The most colons in any part of a host. -/
def mostColons : Nat := 8

/-- A path with a query. An empty path is that of the root. -/
def readPath (cs : List Char) : Except RequestFault Target :=
  let whole := cs.takeWhile (· ≠ '#')
  let path := whole.takeWhile (· ≠ '?')
  let query := whole.drop path.length
  if path.all isPathChar && query.all isQueryChar then
    .ok {
      path := if path.isEmpty then "/" else String.ofList path
      query := if query.isEmpty then none else some (String.ofList query.tail) }
  else .error .targetChar

/-- What has been seen of a host: its brackets, and the colons and whether there was a percent
sign after the last credentials or brackets. -/
structure HostMarks where
  opened : Bool
  closed : Bool
  colons : Nat
  percent : Bool
  deriving DecidableEq

namespace HostMarks

def none : HostMarks := ⟨false, false, 0, false⟩

/-- One character more. -/
def step (marks : HostMarks) (c : Char) : Except RequestFault HostMarks :=
  match c with
  | ':' =>
    if mostColons ≤ marks.colons then .error .targetHost
    else .ok { marks with colons := marks.colons + 1 }
  | '[' =>
    if marks.opened || marks.percent then .error .targetHost
    else .ok { marks with opened := true }
  | ']' =>
    if !marks.opened || marks.closed then .error .targetHost
    else .ok ⟨true, true, 0, false⟩
  | '@' => .ok { marks with colons := 0, percent := false }
  | '%' => .ok { marks with percent := true }
  | c => if isHostChar c then .ok marks else .error .targetChar

/-- The marks of a whole host. -/
def areComplete (marks : HostMarks) : Bool :=
  marks.opened == marks.closed && marks.colons ≤ 1 && !marks.percent

end HostMarks

/-- The name of a host, with port and credentials, up to the path. Only credentials and brackets
may have percent signs, and credentials are followed by a name. -/
def readHost (cs : List Char) : Except RequestFault (List Char) := do
  if cs.isEmpty then .error .targetEmpty
  else
    let host := cs.takeWhile (· ∉ ['/', '?', '#'])
    let marks ← host.foldlM HostMarks.step .none
    if marks.areComplete && host.getLast? ≠ some '@' then return host else .error .targetHost

/-- A scheme with two slashes in front, if there is one: its length, and what follows. -/
def splitScheme? (cs : List Char) : Option (Nat × List Char) :=
  let scheme := cs.takeWhile isSchemeChar
  match cs.drop scheme.length with
  | ':' :: '/' :: '/' :: rest =>
    if scheme.isEmpty && rest.isEmpty then none else some (scheme.length, rest)
  | _ => none

/-- A whole address. -/
def readAddress (address : List Char) : Except RequestFault Target := do
  let host ← readHost address
  if host.isEmpty then .error .targetFormat else readPath (address.drop host.length)

/-- The name of a host alone. -/
def readHostOnly (cs : List Char) : Except RequestFault Target := do
  let host ← readHost cs
  if host.length = cs.length then return ⟨"", none⟩
  else if cs.length = 1 then .error .targetChar
  else .error .targetFormat

/-- The target that a text writes. -/
def read (s : String) : Except RequestFault Target :=
  if longest < s.utf8ByteSize then .error .targetTooLong
  else
    match s.toList with
    | [] => .error .targetEmpty
    | ['*'] => .ok ⟨"*", none⟩
    | '/' :: rest => readPath ('/' :: rest)
    | cs =>
      match splitScheme? cs with
      | some (length, address) =>
        if longestScheme < length then .error .targetScheme else readAddress address
      | none => readHostOnly cs

end Target

/-- A header that a request has. -/
def readHeader (header : Header) : Except RequestFault Header :=
  match headerName? header.1 with
  | none => .error .headerName
  | some name => if isHeaderValue header.2 then .ok (name, header.2) else .error .headerValue

/-- The request with these parts; the first part at fault counts. -/
def Request.read (method target : String) (headers : List Header) (body : String) :
    Except RequestFault Request := do
  if !isToken method then .error .method
  else
    let target ← Target.read target
    return ⟨method, target, ← headers.mapM readHeader, body⟩

end Coursework.Server
