import Coursework.Action.Request
import Coursework.Api.Body
import Coursework.Api.Endpoint
import Coursework.Api.Failure

/-!
# Requests as they are sent

A planned request names the resource that it is about by its verb and its path. What else it says
is in its body; only a request for a stored submission has none.
-/

namespace Coursework

namespace Api

/-- A call of the backend as it goes out. -/
structure Sent where
  method : Method
  endpoint : Endpoint
  body : Option Body
  deriving DecidableEq

namespace Sent

/-- The path that is called. -/
def path (sent : Sent) : String := sent.endpoint.path

/-- The text that is sent along. -/
def text? (sent : Sent) : Option String := sent.body.map Body.text

end Sent

end Api

/-- What a request sends. A group is stored under its own course, a review under the course that
the request names. -/
def Request.sent : Request → Api.Sent
  | updateEnrollment courseId enrollmentId status =>
    ⟨.put, .enrollment courseId enrollmentId, some (.enrollmentStatus status)⟩
  | createGroup courseId userIds name =>
    ⟨.post, .groups courseId, some (.createGroup courseId userIds name)⟩
  | updateGroup group => ⟨.put, .group group.courseId group.id, some (.group group)⟩
  | fetchSubmission courseId submissionId => ⟨.get, .submission courseId submissionId, none⟩
  | updateReview courseId review => ⟨.put, .review courseId review.id, some (.review review)⟩
  | release courseId submissionId released =>
    ⟨.put, .release courseId submissionId, some (.release released)⟩

end Coursework
