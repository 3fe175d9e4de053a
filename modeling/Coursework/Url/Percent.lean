import Coursework.Numeral.Hexadecimal

/-!
# Percent coding

A character that may not stand for itself in a part of an address is written as its UTF-8
bytes, each as a percent sign and two digits.
-/

namespace Coursework.Url

open Numeral (hexDigit hexValue?)

/-- A byte as a percent sign and two digits. -/
def percentByte (byte : UInt8) : List Char :=
  ['%', (hexDigit (byte.toNat / 16)).toUpper, (hexDigit (byte.toNat % 16)).toUpper]

/-- A character, as itself if it is kept. -/
def percentChar (kept : Char → Bool) (c : Char) : List Char :=
  if kept c then [c] else (String.utf8EncodeChar c).flatMap percentByte

/-- A text in which only the kept characters stand for themselves. -/
def percentEncode (kept : Char → Bool) (s : String) : String :=
  String.ofList (s.toList.flatMap (percentChar kept))

/-- The bytes that a text stands for. A percent sign without two digits stands for itself. -/
def percentBytes : List Char → List UInt8
  | '%' :: high :: low :: rest =>
    match hexValue? high, hexValue? low with
    | some h, some l => UInt8.ofNat (h * 16 + l) :: percentBytes rest
    | _, _ => String.utf8EncodeChar '%' ++ percentBytes (high :: low :: rest)
  | c :: rest => String.utf8EncodeChar c ++ percentBytes rest
  | [] => []

/-- The text that a text stands for, if its bytes are UTF-8. -/
def percentDecode? (s : String) : Option String :=
  String.fromUTF8? ⟨(percentBytes s.toList).toArray⟩

/-- A printable ASCII character. -/
def isPrintable (c : Char) : Bool := 0x20 ≤ c.toNat && c.toNat < 0x7F

/-- The characters that stand for themselves in a query. -/
def keptInQuery (c : Char) : Bool := isPrintable c && c ∉ [' ', '\"', '#', '<', '>']

/-- The characters that stand for themselves in the query of an address with a known scheme. -/
def keptInKnownQuery (c : Char) : Bool := keptInQuery c && c ≠ '\x27'

/-- The characters that stand for themselves in a fragment. -/
def keptInFragment (c : Char) : Bool := isPrintable c && c ∉ [' ', '\"', '<', '>', '\x60']

/-- The characters that stand for themselves in a path. -/
def keptInPath (c : Char) : Bool :=
  keptInFragment c && c ∉ ['#', '?', '\x7b', '\x7d']

/-- The characters that stand for themselves in credentials. -/
def keptInCredentials (c : Char) : Bool :=
  keptInPath c && c ∉ ['/', ':', ';', '=', '@', '[', '\\', ']', '^', '|']

end Coursework.Url
