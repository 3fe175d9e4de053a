/-!
# Blank characters and trimming

The characters with the Unicode `White_Space` property, and the removal of runs of characters
from the ends of a text. `trim` drops blanks from both ends; `dropEndWhile` and `dropStartWhile`
take any class of characters.
-/

namespace Coursework.Text

/-- A character with the `White_Space` property. -/
def isBlank (c : Char) : Bool :=
  let n := c.toNat
  (0x9 ≤ n && n ≤ 0xD) || n == 0x20 || n == 0x85 || n == 0xA0 || n == 0x1680 ||
    (0x2000 ≤ n && n ≤ 0x200A) || n == 0x2028 || n == 0x2029 || n == 0x202F || n == 0x205F ||
    n == 0x3000

/-- The list without its longest final run of characters of the class. -/
def dropEnd (p : Char → Bool) (cs : List Char) : List Char :=
  (cs.reverse.dropWhile p).reverse

/-- The text without its longest initial run of characters of the class. -/
def dropStartWhile (p : Char → Bool) (s : String) : String :=
  String.ofList (s.toList.dropWhile p)

/-- The text without its longest final run of characters of the class. -/
def dropEndWhile (p : Char → Bool) (s : String) : String :=
  String.ofList (dropEnd p s.toList)

/-- The text without the blanks at either end. -/
def trim (s : String) : String :=
  String.ofList (dropEnd isBlank (s.toList.dropWhile isBlank))

@[simp] theorem toList_dropStartWhile (p : Char → Bool) (s : String) :
    (dropStartWhile p s).toList = s.toList.dropWhile p := by
  simp [dropStartWhile]

@[simp] theorem toList_dropEndWhile (p : Char → Bool) (s : String) :
    (dropEndWhile p s).toList = dropEnd p s.toList := by
  simp [dropEndWhile]

@[simp] theorem toList_trim (s : String) :
    (trim s).toList = dropEnd isBlank (s.toList.dropWhile isBlank) := by
  simp [trim]

end Coursework.Text
