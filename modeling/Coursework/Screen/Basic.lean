import Coursework.Html.Basic
import Coursework.Store

/-!
# Screens

A screen prints a store, and may change it when it is opened and when it is closed. What it
prints is the store as it was before it opened.
-/

namespace Coursework

/-- What a screen shows, and what its opening and closing do. -/
structure Screen where
  html : Store → Html
  opened : Store → Store
  closed : Store → Store

namespace Screen

/-- A screen that only shows. -/
def still (html : Store → Html) : Screen := ⟨html, id, id⟩

end Screen

end Coursework
