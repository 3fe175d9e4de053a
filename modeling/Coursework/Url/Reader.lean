import Coursework.Numeral.Natural
import Coursework.Text.Blank
import Coursework.Url.Basic
import Coursework.Url.Host
import Coursework.Url.Path

/-!
# Reading addresses

The address that a text writes, in normal form. What follows the scheme is read by the kind of
scheme: an address of the web has a host, a file may have one, and any other scheme has a host
only after two slashes, and a path only after a slash.
-/

namespace Coursework.Url

/-- How the rest of an address is read after its scheme. -/
inductive SchemeKind where
  /-- A scheme of the web, with its port. -/
  | web (port : Nat)
  | file
  | other
  deriving DecidableEq

/-- The kind of a scheme. -/
def SchemeKind.ofScheme (scheme : String) : SchemeKind :=
  match scheme with
  | "http" | "ws" => .web 80
  | "https" | "wss" => .web 443
  | "ftp" => .web 21
  | "file" => .file
  | _ => .other

/-- The text without controls and blanks at its ends, and without tabs and line breaks. -/
def cleaned (s : String) : List Char :=
  (Text.dropEnd (·.toNat ≤ 0x20) (s.toList.dropWhile (·.toNat ≤ 0x20))).filter
    (· ∉ ['\t', '\n', '\r'])

/-- What stands before the first such character, and what follows it if there is one. -/
def cutAt (mark : Char) (cs : List Char) : List Char × Option (List Char) :=
  match cs.dropWhile (· ≠ mark) with
  | [] => (cs, none)
  | _ :: rest => (cs.takeWhile (· ≠ mark), some rest)

/-- The scheme in lower case, and what follows its colon. -/
def scheme? (cs : List Char) : Option (String × List Char) :=
  match cutAt ':' cs with
  | (c :: name, some rest) =>
    if c.isAlpha && name.all (fun c => c.isAlphanum || ['+', '-', '.'].contains c) then
      some (String.ofList ((c :: name).map Char.toLower), rest)
    else none
  | _ => none

/-- A text with every character percent-coded that is not kept. -/
def encoded (kept : Char → Bool) (cs : List Char) : String := percentEncode kept (String.ofList cs)

/-- The credentials that a text writes; none if it is a colon at most. -/
def credentialsOf (cs : List Char) : Option Credentials :=
  let (name, password) := cutAt ':' cs
  let password := (password.filter (!·.isEmpty)).map (encoded keptInCredentials)
  if name.isEmpty && password.isNone then none
  else some ⟨encoded keptInCredentials name, password⟩

/-- What stands before the last at-sign, if there is one, and what stands after it. -/
def splitCredentials (cs : List Char) : Option (List Char) × List Char :=
  let host := (cs.reverse.takeWhile (· ≠ '@')).reverse
  if host.length = cs.length then (none, cs)
  else (some (cs.take (cs.length - host.length - 1)), host)

/-- The length of what stands before the first colon outside brackets. -/
def hostLength (inBrackets : Bool) : List Char → Nat
  | [] => 0
  | c :: rest =>
    if c = ':' && !inBrackets then 0
    else hostLength (c = '[' || (inBrackets && c ≠ ']')) rest + 1

/-- The port that digits write; none if there are no digits. -/
def port? (digits : List Char) : Option (Option Nat) :=
  if digits.isEmpty then some none
  else ((Numeral.ofDigits? digits).filter (· ≤ Numeral.greatest16)).map some

/-- The port after a host and its colon, and what follows: nothing, or a backslash that begins the
path. -/
def splitPort? (cs : List Char) : Option (Option Nat × List Char) := do
  let digits := cs.takeWhile Char.isDigit
  let rest := cs.drop digits.length
  let port ← port? digits
  match rest with
  | [] | '\\' :: _ => return (port, rest)
  | _ => none

/-- What a text up to the first slash says of the host, and what of it belongs to the path. A host
without a name has neither credentials nor a port. -/
def authority? (host? : String → Option String) (standard : Option Nat) (cs : List Char) :
    Option (Authority × List Char) := do
  let (before, after) := splitCredentials cs
  let length := hostLength false after
  let host ← host? (String.ofList (after.take length))
  let (port, rest) ← splitPort? (after.drop (length + 1))
  let credentials := before.bind credentialsOf
  if host = "" && (credentials.isSome || before = some [] || length < after.length) then none
  else return (⟨credentials, host, port.filter (some · ≠ standard)⟩, rest)

/-- An address that is a host and a path. -/
def onHost (scheme : String) (authority : Authority) (path : String) : Url :=
  ⟨scheme, some authority, path, none, none⟩

/-- An address of the web, after the slashes before its host. -/
def webUrl? (scheme : String) (port : Nat) (cs : List Char) : Option Url := do
  let hostText := cs.takeWhile (!isSeparator ·)
  let (authority, _) ← authority? host? (some port) hostText
  return onHost scheme authority (normalPath isSeparator (cs.drop hostText.length))

/-- A file on a host, which may be empty. A path that begins with a drive is on no host, and
slashes before the first segment do not count. -/
def fileOn (host : String) (cs : List Char) : Url :=
  let segments := segmentsOf isSeparator cs
  let drive := segments.head?.bind driveLetter?
  let named := match drive with
    | some letter => String.ofList [letter, ':'] :: segments.tail
    | none => segments
  let path := match named.dropWhile (· = "") with
    | [] => pathOf [""]
    | segments => pathOf segments
  onHost "file" ⟨none, if drive.isSome then "" else host, none⟩ path

/-- An address of a file. After two slashes there is a host, unless it is a drive. The name of the
machine for itself stands for no host. -/
def fileUrl? (cs : List Char) : Option Url :=
  if (cs.takeWhile isSeparator).length < 2 then some (fileOn "" (dropSeparator isSeparator cs))
  else
    let afterSlashes := cs.drop 2
    let hostText := afterSlashes.takeWhile (!isSeparator ·)
    let name := String.ofList hostText
    let path := afterSlashes.drop hostText.length
    if (driveLetter? name).isSome then some (fileOn "" afterSlashes)
    else if name = "" then some (fileOn "" path)
    else (host? name).map fun host =>
      if host = "localhost" then fileOn "" path else fileOn host (dropSeparator isSeparator path)

/-- An address of any other scheme: a host and a path, a path alone, or a text that is neither. -/
def otherUrl? (scheme : String) (cs : List Char) : Option Url :=
  let separates (c : Char) : Bool := c = '/'
  match cs with
  | '/' :: '/' :: afterSlashes => do
    let hostText := afterSlashes.takeWhile (!separates ·)
    let (authority, rest) ← authority? opaqueHost? none hostText
    let path := rest ++ afterSlashes.drop hostText.length
    return onHost scheme authority (if path.isEmpty then "" else normalPath separates path)
  | '/' :: _ => some ⟨scheme, none, normalPath separates cs, none, none⟩
  | _ => some ⟨scheme, none, encoded isPrintable cs, none, none⟩

/-- What stands before query and fragment, the query, and the fragment. -/
def splitParts (cs : List Char) : List Char × Option (List Char) × Option (List Char) :=
  let (beforeFragment, fragment) := cutAt '#' cs
  let (address, query) := cutAt '?' beforeFragment
  (address, query, fragment)

/-- The address with this scheme and what follows its colon. -/
def afterScheme? (scheme : String) (cs : List Char) : Option Url := do
  let (address, query, fragment) := splitParts cs
  let kind := SchemeKind.ofScheme scheme
  let url ← match kind with
    | .web port => webUrl? scheme port (address.dropWhile isSeparator)
    | .file => fileUrl? address
    | .other => otherUrl? scheme address
  let kept := if kind = .other then keptInQuery else keptInKnownQuery
  return { url with
    query := query.map (encoded kept)
    fragment := fragment.map (encoded keptInFragment) }

/-- The address that a text writes. An address without a scheme is none. -/
def parse? (s : String) : Option Url := do
  let (scheme, rest) ← scheme? (cleaned s)
  afterScheme? scheme rest

/-! ## Addresses on this site -/

/-- The scheme of this site. -/
def siteScheme : String := "https"

/-- The port of the scheme of this site. -/
def sitePort : Nat := 443

/-- The path of an address without a scheme. After two separators there is a host. -/
def relativePath? (cs : List Char) : Option String :=
  let (address, _, _) := splitParts cs
  if (address.takeWhile isSeparator).length < 2 then some (normalPath isSeparator address)
  else
    let host := match address with
      | '/' :: '/' :: host => host
      | cs => cs.dropWhile isSeparator
    (webUrl? siteScheme sitePort host).map Url.path

/-- The path of an address as this site reads it: its own scheme may stand before an address
without a host. What is no address has an empty path. -/
def pathname (s : String) : String :=
  let cs := cleaned s
  let path := match scheme? cs with
    | some (scheme, rest) =>
      if scheme = siteScheme && (rest.takeWhile isSeparator).length < 2 then relativePath? rest
      else (afterScheme? scheme rest).map Url.path
    | none => relativePath? cs
  path.getD ""

end Coursework.Url
