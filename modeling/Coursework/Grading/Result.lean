import Coursework.Calendar.Display
import Coursework.Enrollment
import Coursework.Grading.Status
import Coursework.Numeral.Shortest
import Coursework.Text.Lines

/-!
# Result tables

All that is known of one submission, as labelled rows and a table of tests.
-/

namespace Coursework.Grading

/-- A labelled row. -/
structure InfoRow where
  label : String
  value : String
  deriving DecidableEq

/-- A row of the table of tests. -/
structure TestRow where
  name : String
  score : String
  weight : UInt32
  deriving DecidableEq

/-- The result table of a submission. -/
structure ResultTable where
  assignmentName : String
  statusClass : String
  rows : List InfoRow
  tests : List TestRow
  totalScore : String
  deriving DecidableEq

/-- The first row of that label. -/
def ResultTable.row? (table : ResultTable) (label : String) : Option InfoRow :=
  table.rows.find? (·.label == label)

/-- The time that tests took, in seconds. -/
def execTimeText (milliseconds : UInt64) : String :=
  (Numeral.Binary64.ofNat milliseconds.toNat / .ofNat 1000).text ++ " seconds"

/-- The result table of a submission as a viewer sees it. A row without data has a placeholder,
but the date of approval has no row then, and the count of tests has none for labs that are
graded by reviewers. -/
def resultTable (submission : Submission) (assignment : Assignment)
    (enrollment : Option Enrollment) (viewerId : Id) : ResultTable :=
  let status := submission.statusFor viewerId
  let delivered := match submission.buildInfo with
    | some info => Calendar.display info.buildDate
    | none => "N/A"
  let execTime := match submission.buildInfo with
    | some info => execTimeText info.execTime
    | none => ""
  let slipDays := match enrollment with
    | some e => toString e.slipDaysRemaining
    | none => ""
  let approved := match submission.approvedDate.filter (· ≠ "") with
    | some date => [⟨"Approved", Calendar.display date⟩]
    | none => []
  let tests :=
    if assignment.isManuallyGraded then [] else [⟨"Tests Passed", passedTests submission.scores⟩]
  { assignmentName := assignment.name
    statusClass := if status = .approved then "passed" else "failed"
    rows :=
      [⟨"Status", statusText assignment submission status⟩, ⟨"Delivered", delivered⟩] ++
      approved ++ [⟨"Deadline", Calendar.display assignment.deadline⟩] ++ tests ++
      [⟨"Execution time", execTime⟩, ⟨"Slip days", slipDays⟩]
    tests := submission.scores.map fun s =>
      ⟨s.testName, toString s.score ++ "/" ++ toString s.maxScore, s.weight⟩
    totalScore := toString submission.displayScore ++ "%" }

/-- The lines of a submission's build log. -/
def buildLogLines (submission : Submission) : List String :=
  match submission.buildInfo with
  | some info => Text.lines info.buildLog
  | none => []

end Coursework.Grading
