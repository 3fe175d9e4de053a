import Coursework.Action.Dispatch
import Coursework.Screen.Basic
import Coursework.Screen.ResultTable

/-!
# The screen of a lab

Students see their own submission for the lab of the address. Teachers see the submission that
is selected in the matrix, whichever lab it is for. A review is printed once it is released.
-/

namespace Coursework.Screen

open Html

/-- The submission that is shown, with its assignment and its owner if that is one member. -/
structure ShownSubmission where
  submission : Submission
  assignment : Assignment
  enrollment : Option Enrollment
  deriving DecidableEq

/-- What a teacher sees: the selected submission. -/
def selectedSubmission? (course : Gradebook) (selection : Selection) : Option ShownSubmission := do
  let submission ← selection.selectedSubmission
  let assignment ← course.assignment? submission.assignmentId
  return ⟨submission, assignment, selection.activeEnrollment⟩

/-- What a student sees: what they delivered for the lab. -/
def ownSubmission? (course : Gradebook) (userId : Id) (lab : Option Id) :
    Option ShownSubmission := do
  let assignment ← course.assignment? (← lab)
  let submission ← course.submissionOf? userId assignment
  return ⟨submission, assignment, course.enrollmentOf? userId⟩

/-- The submission that the signed-in user sees. -/
def shownSubmission? (store : Store) (lab : Option Id) : Option ShownSubmission :=
  if store.course.isTeacher store.auth.selfId then
    selectedSubmission? store.course store.selection
  else ownSubmission? store.course store.auth.selfId lab

/-- The review that is shown with a submission: the first, once it is released. Labs without
reviewers have none. -/
def releasedReview? (submission : Submission) (assignment : Assignment) : Option Review :=
  if assignment.isManuallyGraded && submission.released then submission.reviews.head? else none

/-- The cell of an outcome. -/
def gradeCell : CriterionGrade → Node
  | .passed => .classed .td "passed" [.value "Passed"]
  | .failed => .classed .td "failed" [.value "Failed"]
  | .none => .classed .td "" [.value ""]

/-- The rows of the criteria under one heading. -/
def benchmarkRows (benchmark : Benchmark) : List Node :=
  .classed .tr "table-primary" [.element .th [⟨.colspan, "2"⟩] [.value benchmark.heading]] ::
    benchmark.criteria.map fun criterion =>
      .bare .tr [.bare .td [.value criterion.description], gradeCell criterion.grade]

/-- A review, to be read only. -/
def reviewTable (review : Review) : Node :=
  .classed .table (tableClass ++ " review-result")
    [tableHead
        [.bare .th [.text "Review"], .bare .th [.value ("Score: " ++ toString review.score)]],
      .bare .tbody (review.benchmarks.flatMap benchmarkRows),
      .bare .tfoot [.bare .tr [.element .td [⟨.colspan, "2"⟩] [.value review.feedback]]]]

/-- A line of a build log. -/
def logLine (line : String) : Node := .bare .span [.value line, .void .br []]

/-- A submission with its results, its released review and its build log. -/
def submissionReport (viewerId : Id) (shown : ShownSubmission) : Node :=
  .classed .div "mb-4"
    ([resultTable shown.submission shown.assignment shown.enrollment viewerId] ++
      ((releasedReview? shown.submission shown.assignment).map reviewTable).toList ++
      [.classed .div "card bg-light"
        [.classed .code "card-body build-log"
          ((Grading.buildLogLines shown.submission).map logLine)]])

/-- The report of the submission that the signed-in user sees. -/
def labReport (lab : Option Id) : Screen := .still fun store =>
  match shownSubmission? store lab with
  | some shown => [submissionReport store.auth.selfId shown]
  | none => [.bare .div [.text "No submission found"]]

/-- The screen of a lab. A student who opens it selects the lab. -/
def lab (id : Option Id) : Screen where
  html store :=
    [.classed .div "row" [.classed .div "col-md-9" ((labReport id).html store)]]
  opened store :=
    if store.course.isTeacher store.auth.selfId then store
    else store.dispatch (.setSelectedAssignmentId id)
  closed store := store

end Coursework.Screen
