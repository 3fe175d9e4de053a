import Coursework.User

/-!
# Courses and their assignments
-/

namespace Coursework

/-- A course. The user who created it releases reviews. -/
structure Course where
  id : Id
  name : String
  code : String
  year : UInt32
  creatorId : Id
  slipDays : UInt32
  deriving DecidableEq, Inhabited

/-- A lab of a course. -/
structure Assignment where
  id : Id
  courseId : Id
  name : String
  /-- A timestamp or a plain date. -/
  deadline : String
  /-- The score, in percent, that approval takes. -/
  scoreLimit : UInt32
  /-- The place among the labs of the course. -/
  order : UInt32
  isGroupLab : Bool
  autoApprove : Bool
  /-- The number of reviewers; a lab without any is graded by its tests. -/
  reviewers : UInt32
  deriving DecidableEq, Inhabited

/-- The lab is graded by reviewers. -/
def Assignment.isManuallyGraded (assignment : Assignment) : Bool :=
  0 < assignment.reviewers

theorem Assignment.isManuallyGraded_eq_false_iff {assignment : Assignment} :
    assignment.isManuallyGraded = false ↔ assignment.reviewers = 0 := by
  simp [isManuallyGraded, UInt32.le_zero_iff]

end Coursework
