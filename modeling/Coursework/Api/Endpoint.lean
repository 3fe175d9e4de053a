import Coursework.User

/-!
# Endpoints of the backend
-/

namespace Coursework.Api

/-- A resource of the backend. -/
inductive Endpoint where
  | course (courseId : Id)
  | reviews (courseId : Id)
  | review (courseId reviewId : Id)
  | enrollment (courseId enrollmentId : Id)
  | groups (courseId : Id)
  | group (courseId groupId : Id)
  | submission (courseId submissionId : Id)
  | release (courseId submissionId : Id)
  deriving DecidableEq

namespace Endpoint

/-- The path segments under that of the courses. -/
def segments : Endpoint → List String
  | course c => [toString c]
  | reviews c => [toString c, "reviews"]
  | review c r => [toString c, "reviews", toString r]
  | enrollment c e => [toString c, "enrollments", toString e]
  | groups c => [toString c, "groups"]
  | group c g => [toString c, "groups", toString g]
  | submission c s => [toString c, "submissions", toString s]
  | release c s => [toString c, "submissions", toString s, "release"]

/-- The path of the resource. -/
def path (endpoint : Endpoint) : String :=
  "/api/courses/" ++ "/".intercalate endpoint.segments

end Endpoint

end Coursework.Api
