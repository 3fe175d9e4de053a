import Coursework.Text.CaseTable

/-!
# Lowercase text

The full Unicode lowercase form of a text. Each character is mapped on its own, except that a
capital sigma becomes a final sigma where it ends a word: some cased character stands before it
and none after it, characters that case ignores being skipped on both sides.
-/

namespace Coursework.Text

/-- Case ignores the character: it neither starts nor ends a word. -/
def isCaseIgnorable (c : Char) : Bool :=
  caseIgnorableRanges.contains c

/-- The character is a letter of a script with case, in whichever case. -/
def isCased (c : Char) : Bool :=
  casedRanges.contains c

/-- The lowercase form of a character that stands alone. Only the dotted capital I has two
characters in it. -/
def lowercaseChar (c : Char) : List Char :=
  if c = 'İ' then ['i', '\u0307']
  else match lowercaseRuns.find? (·.contains c.toNat) with
    | some run => [Char.ofNat (c.toNat + run.shift).toNat]
    | none => [c]

/-- The first of the characters that case does not ignore is cased. -/
def meetsCased (cs : List Char) : Bool :=
  match cs.dropWhile isCaseIgnorable with
  | [] => false
  | c :: _ => isCased c

/-- The capital sigma between these characters ends a word. `before` is read outwards from the
sigma, as `after` is. -/
def endsWord (before after : List Char) : Bool :=
  meetsCased before && !meetsCased after

/-- Lowercase form of the characters that follow those of `before`, which is in reverse order. -/
def lowercaseAfter (before : List Char) : List Char → List Char
  | [] => []
  | c :: rest =>
    (if c = 'Σ' then [if endsWord before rest then 'ς' else 'σ'] else lowercaseChar c) ++
      lowercaseAfter (c :: before) rest

/-- The lowercase form of a text. -/
def lowercase (s : String) : String :=
  String.ofList (lowercaseAfter [] s.toList)

@[simp] theorem lowercaseAfter_nil (before : List Char) : lowercaseAfter before [] = [] := rfl

@[simp] theorem toList_lowercase (s : String) :
    (lowercase s).toList = lowercaseAfter [] s.toList := by
  simp [lowercase]

end Coursework.Text
