import Coursework.Url.Address
import Coursework.Url.HostLabel
import Coursework.Url.Path
import Coursework.Url.Punycode

/-!
# Hosts

A host is a name or a numeric address. Names are in lower case, with a label that is not ASCII in
its ASCII form. Under a scheme that is not known, names mean nothing and are kept.
-/

namespace Coursework.Url

/-- A character that no host name has. -/
def isForbiddenInHost (c : Char) : Bool :=
  c.toNat ≤ 0x20 || c.toNat = 0x7F ||
    ['#', '%', '/', ':', '<', '>', '?', '@', '[', '\\', ']', '^', '|'].contains c

/-- The mark before the ASCII form of a label. -/
def asciiMark : List Char := ['x', 'n', '-', '-']

/-- The greatest length of an ASCII form that is read. -/
def longestForm : Nat := 2000

/-- The greatest length of a label that is written in an ASCII form. -/
def longestLabel : Nat := 1000

/-- The label of an ASCII form, after its mark. -/
def decodedLabel? (form : List Char) : Option (List Char) :=
  if longestForm < form.length || form.getLast? = some '-' then none
  else (Punycode.decode? form).filter fun label => !label.isEmpty && isLabel label

/-- What a label of the text of a name says. -/
def label? (text : List Char) : Option (List Char) :=
  if asciiMark.isPrefixOf text then decodedLabel? (text.drop asciiMark.length)
  else if text.all (·.toNat < 0x80) then some text
  else if isLabel text then some text
  else none

/-- A label in ASCII. -/
def asciiLabel? (label : List Char) : Option (List Char) :=
  if label.all (·.toNat < 0x80) then some label
  else if longestLabel < label.length then none
  else some (asciiMark ++ Punycode.encode label)

/-- The normal form of a host name, in ASCII. -/
def hostName? (name : String) : Option String := do
  let labels ← (runsBetween (· = '.') (← nameText? name.toList)).mapM label?
  if labels.any hasRightToLeft && !labels.all keepsDirection then none
  else
    let texts ← labels.mapM asciiLabel?
    return ".".intercalate (texts.map String.ofList)

/-- What stands after an opening bracket at the start. -/
def bracketed? (text : String) : Option (List Char) :=
  match text.toList with
  | '[' :: rest => some rest
  | _ => none

/-- An address of version 6, after the opening bracket. -/
def literal? (cs : List Char) : Option String :=
  if cs.getLast? = some ']' then
    (version6? (String.ofList cs.dropLast)).map fun address => "[" ++ address ++ "]"
  else none

/-- The normal form of the host of a scheme that is known. -/
def host? (text : String) : Option String :=
  match bracketed? text with
  | some inner => literal? inner
  | none => do
    let name ← hostName? (← percentDecode? text)
    if name = "" || name.toList.any isForbiddenInHost then none
    else if endsInNumber name then version4? name
    else some name

/-- The characters that the host of an address of an unknown scheme does not have. -/
def opaqueForbidden : List Char :=
  ['\x00', '\t', '\n', '\r', ' ', '#', '/', ':', '<', '>', '?', '@', '[', '\\', ']', '^', '|']

/-- The normal form of the host of an address of an unknown scheme, where names mean nothing. -/
def opaqueHost? (text : String) : Option String :=
  match bracketed? text with
  | some inner => literal? inner
  | none =>
    if text.toList.any opaqueForbidden.contains then none else some (percentEncode isPrintable text)

end Coursework.Url
