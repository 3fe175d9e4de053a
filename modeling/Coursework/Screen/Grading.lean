import Coursework.Action.Dispatch
import Coursework.Screen.Lab
import Coursework.Screen.MatrixGrid
import Coursework.Screen.ReviewPanel
import Coursework.Screen.SearchBox

/-!
# The grading screens

The results screen and the review screen: a toolbar, the matrix, and beside it the report or the
review of the selected submission. What was set on the screen is set back when it closes.
-/

namespace Coursework.Screen

open Html Grading

/-- The assignments offered by the filter. The review screen leaves out those that have no
reviewers. -/
def offered (mode : MatrixMode) (assignments : List Assignment) : List Assignment :=
  assignments.filter fun a => mode == .normal || a.isManuallyGraded

/-- The choice of an assignment. -/
def assignmentFilter (mode : MatrixMode) (assignments : List Assignment) : Node :=
  .classed .select "form-control"
    (.element .option [⟨.value, ""⟩] [.text "All assignments"] ::
      (offered mode assignments).map fun a =>
        .element .option [⟨.value, toString a.id⟩] [.value a.name])

/-- The button that sorts by a key. -/
def sortButton (current key : MatrixSortKey) : Node :=
  .element .button
    [.classes ["btn btn-sm btn-default", if current = key then "active" else ""]]
    [.value key.label]

/-- The input of the score from which reviews are to be released. -/
def thresholdInput : Node :=
  .classed .label "col-md-3"
    [.text "Release threshold ",
      .void .input
        [⟨.type, "number"⟩, ⟨.min, "0"⟩, ⟨.max, "100"⟩, .classes ["form-control"]]]

/-- The toolbar. -/
def gradingToolbar (mode : MatrixMode) (store : Store) : Node :=
  .classed .div "grading-screen__toolbar row"
    ([.classed .div "col-md-4" [searchBox "Search by name"],
        .classed .div "col-md-3" [assignmentFilter mode store.course.assignments],
        .classed .label "col-md-2"
          [.void .input [⟨.type, "checkbox"⟩], .text " Group view"],
        .classed .div "col-md-3 btn-group"
          (.classed .span "mr-2" [.text "Sort by"] ::
            MatrixSortKey.all.map (sortButton store.selection.submissionSort.key))] ++
      match mode with
      | .normal => []
      | .review => [thresholdInput])

/-- What stands beside the matrix. -/
def sidePanel : MatrixMode → Screen
  | .normal => labReport none
  | .review => reviewPanel

/-- A grading screen. -/
def grading (mode : MatrixMode) : Screen where
  html store :=
    [.classed .div "grading-screen"
      [gradingToolbar mode store,
        .classed .div "row"
          [.classed .div "col-md-6" ((matrixGrid mode "").html store),
            .classed .div "col-md-6" ((sidePanel mode).html store)]]]
  opened store := store
  closed store := store.dispatchAll Action.gradingScreenReset

end Coursework.Screen
