/-!
# Sets of characters as ranges

A property of characters given by a table of code point ranges, both ends included.
-/

namespace Coursework.Text

/-- Code point ranges, both ends included. -/
abbrev Ranges := List (Nat × Nat)

namespace Ranges

/-- Some range of the table holds the character. -/
def contains (table : Ranges) (c : Char) : Bool :=
  table.any fun (low, high) => low ≤ c.toNat && c.toNat ≤ high

end Ranges

end Coursework.Text
