import Coursework.Html.Basic

/-!
# Search boxes

The input by which lists are searched. A page is printed with nothing typed into it.
-/

namespace Coursework.Screen

open Html

/-- An input with a hint in it. -/
def searchBox (hint : String) : Node :=
  .classed .div "input-group"
    [.void .input [⟨.type, "text"⟩, ⟨.placeholder, hint⟩, .classes ["form-control"]]]

end Coursework.Screen
