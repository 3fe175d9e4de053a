import Coursework.Text.Composed
import Coursework.Text.Lowercase
import Coursework.Text.PrintableTable
import Coursework.Url.HostTable
import Coursework.Url.LabelTable

/-!
# Labels of host names

Which characters a label of a host name may have, what stands for those that it may not have, and
how characters may follow one another in it. A label is lowercase composed text that starts with
no mark. A joiner stands where it has an effect. Where some label of a name is written from right
to left, every label keeps to one direction.
-/

namespace Coursework.Url

open Text (combiningClass composed)

/-! ## Characters -/

/-- The character joins letters or keeps them apart and has no form of its own. -/
def isJoiner (c : Char) : Bool := c = '\u200c' || c = '\u200d'

/-- The letters of a script whose uppercase letters stand in names. -/
def uppercaseNames : Text.Ranges := [(0x13A0, 0x13F5)]

/-- What replaces a character other than its lowercase form. -/
def replacement? (c : Char) : Option String :=
  replacementRuns.findSome? fun (first, words) =>
    if first ≤ c.toNat then (words.splitOn " ")[c.toNat - first]? else none

/-- No name has the character. -/
def isRefused (c : Char) : Bool :=
  refusedRanges.contains c || Text.unprintableRanges.contains c

/-- What a character of a name stands for. -/
def nameChars? (c : Char) : Option (List Char) :=
  if c.toNat < 0x80 then some [c.toLower]
  else if ignoredRanges.contains c then some []
  else if isJoiner c || uppercaseNames.contains c then some [c]
  else
    match replacement? c with
    | some word => some word.toList
    | none => if isRefused c then none else some (Text.lowercaseChar c)

/-- The text that the characters of a name stand for, composed. -/
def nameText? (name : List Char) : Option (List Char) :=
  (name.mapM nameChars?).map fun words => composed words.flatten

/-! ## Marks and joiners -/

/-- The mark takes no place of its own. -/
def isNonspacing (c : Char) : Bool :=
  Text.graphemeExtendRanges.contains c && !spacingExtenderRanges.contains c

/-- The character is a mark. -/
def isMark (c : Char) : Bool :=
  Text.graphemeExtendRanges.contains c || spacingMarkRanges.contains c

/-- Letters join over the character. -/
def isTransparent (c : Char) : Bool := isNonspacing c || c.toNat = 0x1E94B

/-- The combining class of the signs that silence the vowel of a letter. -/
def silencerClass : Nat := 9

/-- A joiner has an effect between these characters: after a sign that silences a vowel, or if it
keeps two letters apart that would join. `before` is read outwards from the joiner, as `after`
is. -/
def joinerStands (joiner : Char) (before after : List Char) : Bool :=
  before.head?.any (combiningClass · = silencerClass) ||
    (joiner = '\u200c' && (before.dropWhile isTransparent).head?.any joinsNextRanges.contains &&
      (after.dropWhile isTransparent).head?.any joinsBeforeRanges.contains)

/-- Every joiner of a label stands where it has an effect. The characters before are in reverse
order. -/
def joinersStand (before : List Char) : List Char → Bool
  | [] => true
  | c :: rest => (!isJoiner c || joinerStands c before rest) && joinersStand (c :: before) rest

/-- A text is a label of a name. -/
def isLabel (label : List Char) : Bool :=
  label.all (fun c => nameChars? c == some [c]) && composed label == label &&
    !label.head?.any isMark && joinersStand [] label

/-! ## Direction -/

/-- The direction in which a character is written. -/
inductive Direction where
  | leftToRight
  | rightToLeft
  /-- A digit in text of either direction. -/
  | digit
  /-- A digit in text from right to left. -/
  | arabicDigit
  /-- A mark, which has the direction of the character before it. -/
  | mark
  | neutral
  deriving DecidableEq

/-- The direction of a character. -/
def direction (c : Char) : Direction :=
  if isNonspacing c && !directedMarkRanges.contains c then .mark
  else if rightToLeftRanges.contains c then .rightToLeft
  else if arabicDigitRanges.contains c then .arabicDigit
  else if digitRanges.contains c then .digit
  else if neutralRanges.contains c then .neutral
  else .leftToRight

/-- Some character of a label is written from right to left. -/
def hasRightToLeft (label : List Char) : Bool :=
  label.any fun c => direction c = .rightToLeft || direction c = .arabicDigit

/-- The direction of the last character that is no mark. -/
def lastDirection? (label : List Char) : Option Direction :=
  (label.map direction).reverse.find? (· ≠ .mark)

/-- The label keeps to the direction of its first character. From right to left it has no letter
of the other direction and digits of one kind only; from left to right it has none of the other
direction at all. It ends in a letter or a digit. -/
def keepsDirection (label : List Char) : Bool :=
  let directions := label.map direction
  let last := lastDirection? label
  match directions.head? with
  | none => true
  | some .rightToLeft =>
    !directions.contains .leftToRight &&
      !(directions.contains .digit && directions.contains .arabicDigit) &&
      [some .rightToLeft, some .digit, some .arabicDigit].contains last
  | some .leftToRight =>
    !hasRightToLeft label && [some .leftToRight, some .digit].contains last
  | some _ => false

end Coursework.Url
