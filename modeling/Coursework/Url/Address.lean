import Coursework.Numeral.Hexadecimal

/-!
# Numeric addresses of hosts

The two forms of a numeric address and the one text each has. Version 4 admits up to four parts
in decimal, octal or hexadecimal, the last of which fills all bytes that are left. Version 6 is
eight pieces of sixteen bits, of which one run of zeros may be left out.
-/

namespace Coursework.Url

open Numeral (hexValue?)

/-- The number written by digits of a base, at least one. -/
def ofDigitsIn? (base : Nat) (cs : List Char) : Option Nat :=
  if cs.isEmpty then none
  else
    cs.foldlM (fun total c =>
      (hexValue? c).bind fun digit => if digit < base then some (total * base + digit) else none) 0

/-- A part of an address of version 4: hexadecimal after `0x`, octal after `0`, else decimal. -/
def addressPart? (cs : List Char) : Option Nat :=
  match cs with
  | ['0', 'x'] | ['0', 'X'] => some 0
  | '0' :: 'x' :: digits | '0' :: 'X' :: digits => ofDigitsIn? 16 digits
  | '0' :: digit :: digits => ofDigitsIn? 8 (digit :: digits)
  | digits => ofDigitsIn? 10 digits

/-- The parts of a host between points, without an empty one at the end. -/
def addressParts (host : String) : List String :=
  let parts := host.splitOn "."
  if 1 < parts.length && parts.getLast? == some "" then parts.dropLast else parts

/-- The host has to be an address of version 4, since its last part is a number. -/
def endsInNumber (host : String) : Bool :=
  match (addressParts host).getLast? with
  | some part =>
    !part.isEmpty && (part.toList.all Char.isDigit || (addressPart? part.toList).isSome)
  | none => false

/-- The address of 32 bits with these parts. -/
def ofAddressParts? (parts : List Nat) : Option Nat :=
  match parts.reverse with
  | [] => none
  | last :: before =>
    let bytes := before.reverse
    if 3 < bytes.length || bytes.any (255 < ·) || 1 <<< (8 * (4 - bytes.length)) ≤ last then none
    else
      some ((bytes ++ List.replicate (4 - bytes.length) 0).foldl (· * 256 + ·) 0 + last)

/-- An address of version 4, in its four decimal parts. -/
def version4? (host : String) : Option String := do
  let address ← ofAddressParts? (← (addressParts host).mapM fun part => addressPart? part.toList)
  return ".".intercalate
    ([16777216, 65536, 256, 1].map fun place => toString (address / place % 256))

/-- A piece of an address of version 6. -/
def addressPiece? (cs : List Char) : Option Nat :=
  if 4 < cs.length then none else ofDigitsIn? 16 cs

/-- The two pieces of a version 4 address at the end of one of version 6. -/
def embeddedPieces? (text : String) : Option (List Nat) := do
  let bytes ← (text.splitOn ".").mapM fun part =>
    if part.startsWith "0" && part ≠ "0" then none else ofDigitsIn? 10 part.toList
  match bytes with
  | [a, b, c, d] =>
    if bytes.all (· < 256) then some [a * 256 + b, c * 256 + d] else none
  | _ => none

/-- Pieces between colons. The last may be a version 4 address if `isLast` says so. -/
def addressPieces? (isLast : Bool) : List String → Option (List Nat)
  | [] => some []
  | [piece] =>
    if isLast && piece.contains '.' then embeddedPieces? piece
    else (addressPiece? piece.toList).map fun number => [number]
  | piece :: rest => do
    let number ← addressPiece? piece.toList
    return number :: (← addressPieces? isLast rest)

/-- The pieces of one side of the run that is left out; the side may be empty. -/
def sidePieces? (isLast : Bool) (side : String) : Option (List Nat) :=
  if side = "" then some [] else addressPieces? isLast (side.splitOn ":")

/-- The eight pieces of an address of version 6. -/
def version6Pieces? (text : String) : Option (List Nat) :=
  match text.splitOn "::" with
  | [whole] => (addressPieces? true (whole.splitOn ":")).filter (·.length = 8)
  | [before, after] => do
    let front ← sidePieces? false before
    let back ← sidePieces? true after
    if front.length + back.length ≤ 7 then
      return front ++ List.replicate (8 - front.length - back.length) 0 ++ back
    else none
  | _ => none

/-- The place and the length of the first longest run of zeros, as found so far and as it goes
on, over the pieces from a place on. -/
def longestZeros (best : Nat × Nat) (run : Nat) (place : Nat) : List Nat → Nat × Nat
  | [] => best
  | piece :: rest =>
    let run := if piece = 0 then run + 1 else 0
    longestZeros (if best.2 < run then (place + 1 - run, run) else best) run (place + 1) rest

/-- Pieces with colons between them. -/
def joinPieces (pieces : List Nat) : String :=
  ":".intercalate (pieces.map fun piece => String.ofList (Nat.toDigits 16 piece))

/-- An address of version 6, the first longest run of at least two zeros left out. -/
def version6? (text : String) : Option String :=
  (version6Pieces? text).map fun pieces =>
    let (start, length) := longestZeros (0, 0) 0 0 pieces
    if length < 2 then joinPieces pieces
    else joinPieces (pieces.take start) ++ "::" ++ joinPieces (pieces.drop (start + length))

end Coursework.Url
