import Coursework.Json.Basic
import Coursework.Numeral.Hexadecimal
import Coursework.Numeral.Scientific

/-!
# Reading documents

The JSON grammar over the characters of a text. Whole numbers from `-2 ^ 63` to `2 ^ 64 - 1` are
read as integers; every other number is read as a binary one, and a text with one beyond the
greatest of these is refused. Arrays and objects may be nested in each other up to
`deepest` levels. Of two fields with one name the later counts, and the fields of an object are
put in the order of their names.
-/

namespace Coursework.Json

open Numeral (hexValue?)

/-- The greatest number of arrays and objects around a value. -/
def deepest : Nat := 127

/-- A blank of the grammar. -/
def isSpace (c : Char) : Bool :=
  c = ' ' || c = '\n' || c = '\t' || c = '\r'

/-- The rest after the blanks in front. -/
def skipSpace (cs : List Char) : List Char :=
  cs.dropWhile isSpace

/-- The number written by four hexadecimal digits. -/
def hex4? (a b c d : Char) : Option Nat := do
  let high := (← hexValue? a) * 16 + (← hexValue? b)
  let low := (← hexValue? c) * 16 + (← hexValue? d)
  return high * 256 + low

/-- The character of a pair of surrogates. -/
def surrogatePair? (high low : Nat) : Option Char :=
  if 0xD800 ≤ high ∧ high < 0xDC00 ∧ 0xDC00 ≤ low ∧ low < 0xE000 then
    some (Char.ofNat (0x10000 + (high - 0xD800) * 0x400 + (low - 0xDC00)))
  else none

/-- The character that a single letter after a backslash stands for. -/
def shortEscape? : Char → Option Char
  | '\"' => some '\"'
  | '\\' => some '\\'
  | '/' => some '/'
  | 'b' => some '\x08'
  | 'f' => some '\x0c'
  | 'n' => some '\n'
  | 'r' => some '\r'
  | 't' => some '\t'
  | _ => none

/-- The rest of a string up to its closing quote, and what follows it. The characters read so
far are in reverse order. -/
def stringRest? (reversed : List Char) : List Char → Option (String × List Char)
  | [] => none
  | '\"' :: rest => some (String.ofList reversed.reverse, rest)
  | '\\' :: 'u' :: a :: b :: c :: d :: '\\' :: 'u' :: e :: f :: g :: h :: rest =>
    match hex4? a b c d with
    | none => none
    | some high =>
      if high < 0xD800 ∨ 0xE000 ≤ high then
        stringRest? (Char.ofNat high :: reversed) ('\\' :: 'u' :: e :: f :: g :: h :: rest)
      else
        match (hex4? e f g h).bind (surrogatePair? high) with
        | none => none
        | some c => stringRest? (c :: reversed) rest
  | '\\' :: 'u' :: a :: b :: c :: d :: rest =>
    match hex4? a b c d with
    | none => none
    | some code =>
      if code < 0xD800 ∨ 0xE000 ≤ code then stringRest? (Char.ofNat code :: reversed) rest
      else none
  | '\\' :: c :: rest =>
    match shortEscape? c with
    | none => none
    | some c => stringRest? (c :: reversed) rest
  | c :: rest =>
    if c.toNat < 0x20 ∨ c = '\\' then none else stringRest? (c :: reversed) rest

/-- The decimal digits in front, at least one, and the rest. -/
def digits? (cs : List Char) : Option (List Char × List Char) :=
  let digits := cs.takeWhile Char.isDigit
  if digits.isEmpty then none else some (digits, cs.dropWhile Char.isDigit)

/-- The digits before the point: a zero alone, or digits that begin with another one. -/
def wholePart? (cs : List Char) : Option (List Char × List Char) :=
  match cs with
  | '0' :: rest => some (['0'], rest)
  | _ => digits? cs

/-- The digits after a point, if one is next. -/
def fractionPart? (cs : List Char) : Option (Option (List Char) × List Char) :=
  match cs with
  | '.' :: rest => (digits? rest).map fun (digits, rest) => (some digits, rest)
  | _ => some (none, cs)

/-- The signed exponent after the letter `e`, if one is next. -/
def exponentPart? (cs : List Char) : Option (Option Int × List Char) :=
  let signed (negative : Bool) (rest : List Char) :=
    (digits? rest).map fun (digits, rest) =>
      let value : Int := Nat.ofDigitChars 10 digits 0
      (some (if negative then -value else value), rest)
  let unsigned : List Char → Option (Option Int × List Char)
    | '-' :: rest => signed true rest
    | '+' :: rest => signed false rest
    | rest => signed false rest
  match cs with
  | 'e' :: rest => unsigned rest
  | 'E' :: rest => unsigned rest
  | _ => some (none, cs)

/-- The number of these parts. -/
def numberOf? (negative : Bool) (whole : List Char) (fraction : Option (List Char))
    (exponent : Option Int) : Option Number :=
  let value := Nat.ofDigitChars 10 whole 0
  let isWhole := fraction.isNone && exponent.isNone
  if isWhole ∧ ¬negative ∧ value ≤ Numeral.greatest64 then some (.integer value)
  else if isWhole ∧ negative ∧ 0 < value ∧ value ≤ 0x8000000000000000 then
    some (.integer (-value))
  else
    (Numeral.Binary64.ofScientific? whole (fraction.getD []) (exponent.getD 0)).map
      (.real negative)

/-- A number, and the rest. -/
def number? (cs : List Char) : Option (Json × List Char) := do
  let (negative, cs) := match cs with
    | '-' :: rest => (true, rest)
    | _ => (false, cs)
  let (whole, cs) ← wholePart? cs
  let (fraction, cs) ← fractionPart? cs
  let (exponent, cs) ← exponentPart? cs
  let value ← numberOf? negative whole fraction exponent
  return (number value, cs)

/-- A value that is neither an array nor an object, and the rest. -/
def scalar? (cs : List Char) : Option (Json × List Char) :=
  match cs with
  | 'n' :: 'u' :: 'l' :: 'l' :: rest => some (null, rest)
  | 't' :: 'r' :: 'u' :: 'e' :: rest => some (bool true, rest)
  | 'f' :: 'a' :: 'l' :: 's' :: 'e' :: rest => some (bool false, rest)
  | '\"' :: rest => (stringRest? [] rest).map fun (s, rest) => (string s, rest)
  | _ => number? cs

/-- The items of an array up to its closing bracket, and the rest. At most `width` of them are
read; those read so far are in reverse order. -/
def items? (item : List Char → Option (Json × List Char)) :
    (width : Nat) → List Json → List Char → Option (Json × List Char)
  | 0, _, _ => none
  | width + 1, reversed, cs =>
    match item cs with
    | none => none
    | some (value, rest) =>
      match skipSpace rest with
      | ',' :: rest => items? item width (value :: reversed) rest
      | ']' :: rest => some (array (value :: reversed).reverse, rest)
      | _ => none

/-- The fields of an object up to its closing brace, and the rest. At most `width` of them are
read; those read so far are in the order of their names. -/
def fields? (item : List Char → Option (Json × List Char)) :
    (width : Nat) → List (String × Json) → List Char → Option (Json × List Char)
  | 0, _, _ => none
  | width + 1, known, cs =>
    match skipSpace cs with
    | '\"' :: rest =>
      match stringRest? [] rest with
      | none => none
      | some (name, rest) =>
        match skipSpace rest with
        | ':' :: rest =>
          match item rest with
          | none => none
          | some (value, rest) =>
            match skipSpace rest with
            | ',' :: rest => fields? item width (insertField name value known) rest
            | '\x7d' :: rest => some (object (insertField name value known), rest)
            | _ => none
        | _ => none
    | _ => none

/-- A value with at most `depth` arrays and objects inside each other, each with at most `width`
members, and the rest. -/
def value? (width : Nat) : (depth : Nat) → List Char → Option (Json × List Char)
  | 0, cs =>
    match skipSpace cs with
    | '[' :: _ => none
    | '\x7b' :: _ => none
    | cs => scalar? cs
  | depth + 1, cs =>
    match skipSpace cs with
    | '[' :: rest =>
      match skipSpace rest with
      | ']' :: rest => some (array [], rest)
      | rest => items? (value? width depth) width [] rest
    | '\x7b' :: rest =>
      match skipSpace rest with
      | '\x7d' :: rest => some (object [], rest)
      | rest => fields? (value? width depth) width [] rest
    | cs => scalar? cs

/-- The document that the characters write. -/
def readChars? (cs : List Char) : Option Json :=
  match value? cs.length deepest cs with
  | some (document, rest) => if (skipSpace rest).isEmpty then some document else none
  | none => none

/-- The document that the text writes. -/
def read? (s : String) : Option Json :=
  readChars? s.toList

end Coursework.Json
