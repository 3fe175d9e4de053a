import Coursework.Wire.Grading

/-!
# Bodies of backend calls
-/

namespace Coursework.Api

open Json

/-- What a call sends. -/
inductive Body where
  | enrollmentStatus (status : EnrollmentStatus)
  | createGroup (courseId : Id) (userIds : List Id) (name : String)
  | release (released : Bool)
  | group (group : Group)
  | review (review : Review)
  deriving DecidableEq

namespace Body

/-- The document that the call sends. -/
def document : Body → Json
  | .enrollmentStatus status => .object [("status", Wire.enrollmentStatus.encode status)]
  | .createGroup courseId userIds name =>
    .object [("course_id", Codec.uint64.encode courseId),
      ("user_ids", (Codec.list .uint64).encode userIds), ("name", .string name)]
  | .release released => .object [("released", .bool released)]
  | .group stored => Wire.group.encode stored
  | .review stored => Wire.review.encode stored

/-- The text of the body. -/
def text (body : Body) : String := body.document.text

end Body

end Coursework.Api
