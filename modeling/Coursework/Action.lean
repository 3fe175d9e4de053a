import Coursework.Store

/-!
# Actions

What the screens ask for. Local actions change the selection or the review book at once; remote
ones stand for a call of the backend, whose answer changes the gradebook or the review book
later.
-/

namespace Coursework

/-- What the review screen asks for. -/
inductive ReviewAction where
  /-- Show one assignment, or all for a negative number. -/
  | setAssignmentId (id : Int64)
  /-- Mark the current review as ready or as in progress. -/
  | updateReady (ready : Bool)
  /-- Release the selected submission's review, or withdraw it. -/
  | release (released : Bool)
  | setSelectedReview (position : Option Nat)
  | setMinimumScore (score : UInt32)
  deriving DecidableEq

/-- What the screens ask for. -/
inductive Action where
  | updateEnrollmentStatus (courseId enrollmentId : Id) (status : EnrollmentStatus)
  | createGroup (courseId : Id) (userIds : List Id) (name : String)
  | updateGroup (group : Group)
  | refreshSubmission (courseId submissionId : Id)
  | setActiveGroup (group : Option Group)
  | updateGroupName (name : String)
  /-- Add a user to the group that is edited, or remove a user who is in it. -/
  | toggleGroupUser (user : User)
  | setActiveEnrollment (enrollment : Option Enrollment)
  | setSelectedSubmission (submission : Option Submission)
  | setSelectedAssignmentId (id : Option Id)
  | setGroupView (on : Bool)
  | setSubmissionSort (key : MatrixSortKey)
  | review (action : ReviewAction)
  deriving DecidableEq

/-- The review action needs the backend. -/
def ReviewAction.isRemote : ReviewAction → Bool
  | updateReady _ | release _ => true
  | setAssignmentId _ | setSelectedReview _ | setMinimumScore _ => false

namespace Action

/-- The action needs the backend. -/
def isRemote : Action → Bool
  | updateEnrollmentStatus .. | createGroup .. | updateGroup _ | refreshSubmission .. => true
  | review action => action.isRemote
  | _ => false

/-- The filters of both matrix screens, off. -/
def clearAssignmentFilter : List Action :=
  [setSelectedAssignmentId none, review (.setAssignmentId (-1))]

/-- What a matrix screen leaves behind when it is closed: its own settings as they were. -/
def gradingScreenReset : List Action :=
  [setGroupView false, setActiveEnrollment none] ++ clearAssignmentFilter

end Action

end Coursework
