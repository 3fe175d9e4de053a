import Coursework.Course
import Coursework.Enrollment
import Coursework.Submission

/-!
# Course snapshots
-/

namespace Coursework

/-- All of a course that the screens need, as the backend sends it. -/
structure Snapshot where
  course : Course
  assignments : List Assignment
  enrollments : List Enrollment
  groups : List Group
  submissions : List Submission
  deriving DecidableEq, Inhabited

end Coursework
