/-!
# The accordion

Of the lists of the course menu at most one is open. A click on an entry turns its list and
closes every other one.
-/

namespace Coursework.Navigation

/-- What happens to one list. -/
inductive CollapseStep where
  | opens
  | closes
  | stays
  deriving DecidableEq

/-- The step of a list that is open or not, and is the one that was clicked or not. -/
def collapseStep (clicked isOpen : Bool) : CollapseStep :=
  if isOpen then .closes else if clicked then .opens else .stays

/-- The steps of all lists when the one at `index` is clicked. -/
def accordionPlan (open_ : List Bool) (index : Nat) : List CollapseStep :=
  open_.mapIdx fun i isOpen => collapseStep (i == index) isOpen

/-- A list is open after its step. -/
def CollapseStep.apply (step : CollapseStep) (isOpen : Bool) : Bool :=
  match step with
  | opens => true
  | closes => false
  | stays => isOpen

/-- Which lists are open after a click. -/
def toggleAt (open_ : List Bool) (index : Nat) : List Bool :=
  List.zipWith CollapseStep.apply (accordionPlan open_ index) open_

/-- The class of the icon beside an entry. -/
def iconClass (isOpen : Bool) : String :=
  if isOpen then "glyphicon glyphicon-minus-sign" else "glyphicon glyphicon-plus-sign"

end Coursework.Navigation
