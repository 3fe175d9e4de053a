import Coursework.Store.Auth
import Coursework.Store.Gradebook
import Coursework.Store.ReviewBook
import Coursework.Store.Selection

/-!
# The store

All that the screens read.
-/

namespace Coursework

/-- The four slices. -/
structure Store where
  auth : Auth
  course : Gradebook
  selection : Selection
  review : ReviewBook
  deriving DecidableEq

/-- The store before anything is known. -/
def Store.initial : Store := ⟨.signedOut, .empty, .initial, .initial⟩

end Coursework
