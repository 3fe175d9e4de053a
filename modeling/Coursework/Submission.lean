import Coursework.Review

/-!
# Submissions

What a student or a group delivered for an assignment, the results of its tests, and its status
as a whole and for single members of a group.
-/

namespace Coursework

/-- The result of one test. -/
structure Score where
  id : Id
  testName : String
  score : UInt32
  maxScore : UInt32
  weight : UInt32
  deriving DecidableEq, Inhabited

/-- The test gave all of its points. -/
def Score.passed (score : Score) : Bool :=
  score.score == score.maxScore

/-- The last run of the tests. -/
structure BuildInfo where
  buildDate : String
  /-- The time that the tests took, in milliseconds. -/
  execTime : UInt64
  buildLog : String
  deriving DecidableEq, Inhabited

/-- The status of a submission. -/
inductive SubmissionStatus where
  | none
  | approved
  | rejected
  | revision
  deriving DecidableEq

/-- Nothing is decided at first. -/
instance : Inhabited SubmissionStatus := ⟨.none⟩

/-- The status in words. -/
def SubmissionStatus.label : SubmissionStatus → String
  | none => "None"
  | approved => "Approved"
  | rejected => "Rejected"
  | revision => "Revision"

/-- The status for one member of a group. -/
structure Grade where
  userId : Id
  status : SubmissionStatus
  deriving DecidableEq, Inhabited

/-- A delivery for an assignment. -/
structure Submission where
  id : Id
  assignmentId : Id
  userId : Id
  groupId : Id
  /-- The total score, in percent. -/
  score : UInt32
  status : SubmissionStatus
  grades : List Grade
  scores : List Score
  buildInfo : Option BuildInfo
  approvedDate : Option String
  released : Bool
  reviews : List Review
  deriving DecidableEq, Inhabited

namespace Submission

/-- The submission that stands for a missing one: nothing delivered, no score. -/
def blank : Submission :=
  ⟨0, 0, 0, 0, 0, .none, [], [], none, none, false, []⟩

/-- The score, at most a hundred percent. -/
def displayScore (submission : Submission) : UInt32 :=
  min submission.score 100

/-- The status for a user: that of the user's first grade if there is one, otherwise that of the
submission. -/
def statusFor (submission : Submission) (userId : Id) : SubmissionStatus :=
  match submission.grades.find? (·.userId == userId) with
  | some grade => grade.status
  | none => submission.status

end Submission

end Coursework
