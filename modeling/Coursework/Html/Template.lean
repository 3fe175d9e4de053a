import Coursework.Html.Reader

/-!
# Templates

The tags that a view writes into a page. Which of them are used and how often depends on the data;
their names and those of their attributes do not.
-/

namespace Coursework.Html

/-- A tag that a view writes, with the names of its attributes in their order. -/
structure Template where
  tag : String
  attributes : List String
  deriving DecidableEq

/-- A tag that is read is one of those that were written. -/
def Mark.WrittenIn (templates : List Template) : Mark → Prop
  | opening name attributes => ⟨name, attributes.map (·.1)⟩ ∈ templates
  | closing name => ∃ template ∈ templates, template.tag = name
  | text _ => True

end Coursework.Html
