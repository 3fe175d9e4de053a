import Coursework.Grading.ReviewPanel
import Coursework.Screen.Basic

/-!
# Printed review panels

What is known of the review of the selected submission, with the buttons for it. Nothing is
printed while there is no such review.
-/

namespace Coursework.Screen

open Html Grading

/-- A line of the panel. -/
def panelLine (children : List Node) : Node := .classed .li "list-group-item" children

/-- A line with a label before its text. -/
def labelledLine (label content : String) : Node :=
  panelLine [.classed .span "w-25 mr-5 float-left" [.text label], .value content]

/-- A button that turns something on or off. -/
def toggleButton (classes : String) (toggle : Toggle) : Node :=
  .element .button [.classes [classes, if toggle.enabled then "" else "disabled"]]
    [.value toggle.label]

/-- A panel. -/
def panelList (panel : Grading.ReviewPanel) : Node :=
  .classed .ul "list-group review-info"
    [.classed .li "list-group-item active"
        [.classed .span "align-middle" [.value panel.assignmentName],
          toggleButton "btn btn-warning float-right" panel.release],
      labelledLine "Reviewer: " panel.reviewer,
      labelledLine "Submission Status: " panel.submissionStatus,
      labelledLine "Review Status: " panel.reviewStatus,
      labelledLine "Score: " (toString panel.score),
      labelledLine "Updated: " panel.edited,
      labelledLine "Graded: " (toString panel.graded ++ "/" ++ toString panel.total),
      panelLine [toggleButton "btn btn-success" panel.ready]]

/-- The panel of the store. -/
def reviewPanel : Screen := .still fun store => ((storePanel? store).map panelList).toList

end Coursework.Screen
