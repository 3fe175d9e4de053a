import Coursework.Text.Blank
import Coursework.Text.Lowercase

/-!
# Name search

Every search box finds a name by any part of it, without regard to case. Blanks around the
query are dropped, and an empty query finds every name.
-/

namespace Coursework.Text

/-- `part` stands somewhere in `whole`, without a gap. -/
def isSublistAt (part : List Char) : List Char → Bool
  | [] => part.isEmpty
  | c :: rest => part.isPrefixOf (c :: rest) || isSublistAt part rest

/-- `part` occurs in `whole`. -/
def occursIn (part whole : String) : Bool :=
  isSublistAt part.toList whole.toList

/-- The name is found by the query. -/
def found (query name : String) : Bool :=
  let sought := trim query
  sought.isEmpty || occursIn (lowercase sought) (lowercase name)

theorem isSublistAt_iff {part whole : List Char} :
    isSublistAt part whole = true ↔ part <:+: whole := by
  induction whole with
  | nil => simp [isSublistAt]
  | cons c rest ih => simp [isSublistAt, ih, List.infix_cons_iff]

theorem occursIn_iff {part whole : String} :
    occursIn part whole = true ↔ part.toList <:+: whole.toList :=
  isSublistAt_iff

end Coursework.Text
