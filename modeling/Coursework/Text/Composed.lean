import Coursework.Text.CombiningTable

/-!
# Composed text

The composed form of a text: marks after a letter stand in the order of their combining classes,
and a letter with a mark is one character where there is one for both. A syllable of Korean letters
is one character, found by arithmetic.
-/

namespace Coursework.Text

/-- The combining class of a character; 0 if it does not combine. -/
def combiningClass (c : Char) : Nat :=
  match combiningRuns.find? fun (low, high, _) => low ≤ c.toNat && c.toNat ≤ high with
  | some (_, _, number) => number
  | none => 0

/-- Characters that follow one another, two by two. -/
def pairsOf : List Char → List (Char × Char)
  | a :: b :: rest => (a, b) :: pairsOf rest
  | _ => []

/-! ## Syllables -/

/-- A Korean syllable has one of 19 leading consonants, one of 21 vowels, and one of 27 trailing
consonants or none. The syllables stand in this order from here on. -/
def firstSyllable : Nat := 0xAC00

/-- The place of a character in a run from a first one on. -/
def placeIn (first count : Nat) (c : Char) : Option Nat :=
  if first ≤ c.toNat && c.toNat < first + count then some (c.toNat - first) else none

/-- The syllable of a consonant and a vowel, or of such a syllable and a trailing consonant. -/
def syllable? (a b : Char) : Option Char :=
  match placeIn 0x1100 19 a, placeIn 0x1161 21 b with
  | some lead, some vowel => some (Char.ofNat (firstSyllable + (lead * 21 + vowel) * 28))
  | _, _ =>
    match placeIn firstSyllable (19 * 21 * 28) a, placeIn 0x11A8 27 b with
    | some place, some trail =>
      if place % 28 = 0 then some (Char.ofNat (a.toNat + trail + 1)) else none
    | _, _ => none

/-- The two parts of a syllable. -/
def syllableParts? (c : Char) : Option (Char × Char) :=
  (placeIn firstSyllable (19 * 21 * 28) c).map fun place =>
    if place % 28 = 0 then
      (Char.ofNat (0x1100 + place / 588), Char.ofNat (0x1161 + place / 28 % 21))
    else (Char.ofNat (c.toNat - place % 28), Char.ofNat (0x11A7 + place % 28))

/-! ## Characters with two parts -/

/-- The character that is composed of two. -/
def composite? (a b : Char) : Option Char :=
  match syllable? a b with
  | some syllable => some syllable
  | none =>
    compositeGroups.findSome? fun (second, firsts) =>
      if second = b.toNat then (pairsOf firsts.toList).lookup a else none

/-- The two parts of a composed character. -/
def parts? (c : Char) : Option (Char × Char) :=
  match syllableParts? c with
  | some parts => some parts
  | none =>
    compositeGroups.findSome? fun (second, firsts) =>
      ((pairsOf firsts.toList).find? (·.2 = c)).map fun (first, _) => (first, Char.ofNat second)

/-- How often a character has parts of which the first has parts again, at most. -/
def deepest : Nat := 4

/-- The parts of a character, down to those without parts. -/
def partsOf (depth : Nat) (c : Char) : List Char :=
  match depth with
  | 0 => [c]
  | depth + 1 =>
    match parts? c with
    | some (first, second) => partsOf depth first ++ [second]
    | none => [c]

/-! ## The composed form -/

/-- A character in front of others, moved behind those of lower classes that combine. -/
def placed (c : Char) : List Char → List Char
  | [] => [c]
  | d :: rest =>
    if combiningClass d ≠ 0 && combiningClass d < combiningClass c then d :: placed c rest
    else c :: d :: rest

/-- The characters with combining ones in the order of their classes. -/
def ordered (cs : List Char) : List Char := cs.foldr placed []

/-- The composed form of a letter, marks after it in reverse order that do not compose with it, and
what follows. A mark composes unless one of its class or a higher one stands between. -/
def composeAfter (letter : Char) (marks : List Char) : List Char → List Char
  | [] => letter :: marks.reverse
  | c :: rest =>
    let reaches := match marks with
      | [] => true
      | mark :: _ => combiningClass mark < combiningClass c
    match (if reaches then composite? letter c else none) with
    | some composite => composeAfter composite marks rest
    | none =>
      if combiningClass c = 0 then letter :: marks.reverse ++ composeAfter c [] rest
      else composeAfter letter (c :: marks) rest

/-- The composed form of a text. -/
def composed (cs : List Char) : List Char :=
  match ordered (cs.flatMap (partsOf deepest)) with
  | [] => []
  | c :: rest => composeAfter c [] rest

end Coursework.Text
