import Coursework.Calendar.Display
import Coursework.Grading.Progress
import Coursework.Grading.Status
import Coursework.Screen.Basic
import Coursework.Screen.ProgressBar

/-!
# The list of labs

Every lab of the course with the progress, the status and the deadline for the signed-in user.
A lab without a submission is shown like one with an empty submission.
-/

namespace Coursework.Screen

open Html Grading

/-- An entry of the list. -/
structure LabEntry where
  assignment : Assignment
  submission : Submission
  deriving DecidableEq

/-- The entries for a user. -/
def labEntries (course : Gradebook) (userId : Id) : List LabEntry :=
  course.assignments.map fun a => ⟨a, (course.submissionOf? userId a).getD .blank⟩

/-- An entry, printed. -/
def labItem (viewerId : Id) (entry : LabEntry) : Node :=
  let ⟨assignment, submission⟩ := entry
  .classed .li "list-group-item border clickable mb-2 lab-list"
    [.classed .div "row"
        [.classed .div "col-8" [.bare .strong [.value assignment.name]],
          .classed .div "col-4 text-center" [.bare .strong [.text "Deadline:"]]],
      .classed .div "row"
        [.classed .div "col-5"
            [progressBar (progress (some submission) (some assignment) .lab viewerId)],
          .classed .div "col-3 text-center"
            [.value (statusText assignment submission (submission.statusFor viewerId))],
          .classed .div "col-4 text-center" [.value (Calendar.display assignment.deadline)]]]

/-- The list of labs. -/
def labs : Screen := .still fun store =>
  let viewerId := store.auth.selfId
  [.classed .ul "list-group" ((labEntries store.course viewerId).map (labItem viewerId))]

end Coursework.Screen
