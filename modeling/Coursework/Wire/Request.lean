import Coursework.Action.Request
import Coursework.Wire.Action

/-!
# Documents of requests

The written form of a planned call of the backend, tagged with its kind like that of an action.
-/

namespace Coursework.Wire

open Json

/-- The document of a request. -/
def request : Request → Json
  | .updateEnrollment courseId enrollmentId status =>
    tagged "UpdateEnrollment" (.object (roleChange.write ⟨courseId, enrollmentId, status⟩))
  | .createGroup courseId userIds name =>
    tagged "CreateGroup" (.object (newGroup.write ⟨courseId, userIds, name⟩))
  | .updateGroup stored => tagged "UpdateGroup" (group.encode stored)
  | .fetchSubmission courseId submissionId =>
    tagged "FetchSubmission" (.object (submissionReference.write ⟨courseId, submissionId⟩))
  | .updateReview courseId changed =>
    tagged "UpdateReview"
      (.object [("course_id", Codec.uint64.encode courseId), ("review", review.encode changed)])
  | .release courseId submissionId released =>
    tagged "Release"
      (.object (submissionReference.write ⟨courseId, submissionId⟩ ++
        [("released", .bool released)]))

end Coursework.Wire
