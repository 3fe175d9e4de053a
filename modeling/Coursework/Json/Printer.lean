import Coursework.Json.Basic
import Coursework.Numeral.Hexadecimal

/-!
# Writing documents

The compact form: no blanks, fields in the order of the document. In a string only the quote,
the backslash and the characters below U+0020 are escaped, the latter in the short form where
there is one.

A number with a fraction or an exponent is its shortest decimal, of two equally near ones the
one with an even last digit. It is positional if its first digit is among the sixteen places
before the point or the first five after it, and then has at least one digit after the point;
otherwise one digit stands before the point and a signed exponent follows.
-/

namespace Coursework.Json

open Numeral (hexDigit)

/-- One character inside a string. -/
def escapedChar (c : Char) : List Char :=
  match c with
  | '\"' => ['\\', '\"']
  | '\\' => ['\\', '\\']
  | '\x08' => ['\\', 'b']
  | '\x0c' => ['\\', 'f']
  | '\n' => ['\\', 'n']
  | '\r' => ['\\', 'r']
  | '\t' => ['\\', 't']
  | c =>
    if c.toNat < 0x20 then ['\\', 'u', '0', '0', hexDigit (c.toNat / 16), hexDigit (c.toNat % 16)]
    else [c]

/-- A string between its quotes. -/
def stringChars (s : String) : List Char :=
  '\"' :: s.toList.flatMap escapedChar ++ ['\"']

/-- The exponent of a number in scientific notation, with a sign. -/
def exponentChars (exponent : Int) : List Char :=
  'e' :: (if exponent < 0 then '-' else '+') :: Nat.toDigits 10 exponent.natAbs

/-- The text of a magnitude with a fraction or an exponent. -/
def realChars (magnitude : Numeral.Binary64) : List Char :=
  let decimal := magnitude.shortest .even
  let digits := Nat.toDigits 10 decimal.coefficient
  let leading : Int := (digits.length : Int) - 1 + decimal.exponent
  if -5 ≤ leading ∧ leading < 16 then
    decimal.positional ++ if 0 ≤ decimal.exponent then ['.', '0'] else []
  else
    digits.take 1 ++ (if digits.length = 1 then [] else '.' :: digits.drop 1) ++
      exponentChars leading

/-- The text of a whole number. -/
def integerChars (value : Int) : List Char :=
  (if value < 0 then ['-'] else []) ++ Nat.toDigits 10 value.natAbs

/-- The text of a number. -/
def Number.chars : Number → List Char
  | integer value => integerChars value
  | real negative magnitude => (if negative then ['-'] else []) ++ realChars magnitude

mutual

/-- The text of a document. -/
def chars : Json → List Char
  | null => ['n', 'u', 'l', 'l']
  | bool true => ['t', 'r', 'u', 'e']
  | bool false => ['f', 'a', 'l', 's', 'e']
  | number value => value.chars
  | string value => stringChars value
  | array items => '[' :: itemsChars items ++ [']']
  | object fields => '\x7b' :: fieldsChars fields ++ ['\x7d']

/-- The items of an array, with commas between them. -/
def itemsChars : List Json → List Char
  | [] => []
  | [item] => item.chars
  | item :: next :: rest => item.chars ++ ',' :: itemsChars (next :: rest)

/-- The fields of an object, with commas between them. -/
def fieldsChars : List (String × Json) → List Char
  | [] => []
  | [(name, value)] => stringChars name ++ ':' :: value.chars
  | (name, value) :: next :: rest =>
    stringChars name ++ ':' :: value.chars ++ ',' :: fieldsChars (next :: rest)

end

/-- The compact text of a document. -/
def text (document : Json) : String :=
  String.ofList document.chars

end Coursework.Json
