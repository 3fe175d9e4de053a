import Coursework.Action

/-!
# Requests

The backend call that a remote action stands for, given what the store holds. Review actions are
about the selected submission; marking a review ready also needs a current review.
-/

namespace Coursework

/-- A call of the backend. -/
inductive Request where
  | updateEnrollment (courseId enrollmentId : Id) (status : EnrollmentStatus)
  | createGroup (courseId : Id) (userIds : List Id) (name : String)
  | updateGroup (group : Group)
  | fetchSubmission (courseId submissionId : Id)
  | updateReview (courseId : Id) (review : Review)
  | release (courseId submissionId : Id) (released : Bool)
  deriving DecidableEq

/-- The call that an action stands for; none for local actions and for review actions without
an object. -/
def Store.plan? (store : Store) : Action → Option Request
  | .updateEnrollmentStatus courseId enrollmentId status =>
    some (.updateEnrollment courseId enrollmentId status)
  | .createGroup courseId userIds name => some (.createGroup courseId userIds name)
  | .updateGroup group => some (.updateGroup group)
  | .refreshSubmission courseId submissionId => some (.fetchSubmission courseId submissionId)
  | .review (.updateReady ready) => do
    let submission ← store.selection.selectedSubmission
    let current ← store.review.currentReview? submission.id store.auth.selfId
    return .updateReview store.course.courseId { current with ready }
  | .review (.release released) => do
    let submission ← store.selection.selectedSubmission
    return .release store.course.courseId submission.id released
  | _ => none

end Coursework
