import Coursework.Course
import Coursework.Submission

/-!
# Status of a submission in words

The status line of lab lists and result tables, the count of passed tests, and the class of a
cell of the submission matrix.
-/

namespace Coursework.Grading

/-- The status line of a submission whose status for the reader is given. A submission that is
not graded yet tells what is missing. -/
def statusText (assignment : Assignment) (submission : Submission) (status : SubmissionStatus) :
    String :=
  if status = .none ∧ !assignment.autoApprove ∧ assignment.scoreLimit ≤ submission.score then
    "Awaiting approval"
  else if status = .none ∧ submission.score < assignment.scoreLimit then
    "Need " ++ toString assignment.scoreLimit ++ "% score for approval"
  else status.label

/-- Passed tests and all tests, or nothing if there are no tests. -/
def passedTests (scores : List Score) : String :=
  if scores.isEmpty then ""
  else toString (scores.countP (·.passed)) ++ "/" ++ toString scores.length

/-- The class of a matrix cell. -/
def cellClass : SubmissionStatus → String
  | .approved => "result-approved"
  | .revision => "result-revision"
  | .rejected => "result-rejected"
  | .none => "clickable"

end Coursework.Grading
