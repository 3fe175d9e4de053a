import Coursework.Grading.Result
import Coursework.Screen.ProgressBar

/-!
# Printed result tables

The name of the lab, the progress of the submission, and the rows of its result table.
-/

namespace Coursework.Screen

open Html Grading

/-- A labelled row. -/
def infoRow (row : InfoRow) : Node :=
  .bare .tr [.element .th [⟨.colspan, "2"⟩] [.value row.label], .bare .td [.value row.value]]

/-- The row of a test. -/
def testRow (row : TestRow) : Node :=
  .bare .tr
    [.bare .td [.value row.name], .bare .td [.value row.score],
      .bare .td [.value (toString row.weight)]]

/-- The class of most tables. -/
def tableClass : String := "table table-curved table-striped"

/-- The head of a table, of one row. -/
def tableHead (cells : List Node) : Node :=
  .classed .thead "thead-dark" [.bare .tr cells]

/-- All that is known of a submission, as a viewer sees it. -/
def resultTable (submission : Submission) (assignment : Assignment)
    (enrollment : Option Enrollment) (viewerId : Id) : Node :=
  let table := Grading.resultTable submission assignment enrollment viewerId
  .classed .div "lab-result"
    [.bare .h2 [.value table.assignmentName],
      progressBar (progress (some submission) (some assignment) .lab viewerId),
      .classed .table tableClass
        [tableHead [.element .th [⟨.colspan, "3"⟩] [.text "Lab information"]],
          .bare .tbody (table.rows.map infoRow)],
      .classed .table tableClass
        [tableHead
          [.bare .th [.text "Test Name"], .bare .th [.text "Score"], .bare .th [.text "Weight"]],
          .bare .tbody (table.tests.map testRow),
          .bare .tfoot
            [.bare .tr
              [.bare .th [.text "Total Score"],
                .classed .th table.statusClass [.value table.totalScore],
                .bare .th [.text "100%"]]]]]

end Coursework.Screen
