/-!
# Failures of backend calls
-/

namespace Coursework.Api

/-- The verbs of backend calls. -/
inductive Method where
  | get
  | post
  | put
  deriving DecidableEq

def Method.name : Method → String
  | get => "GET"
  | post => "POST"
  | put => "PUT"

/-- Why a call gave no result. -/
inductive Failure where
  /-- There was no answer. -/
  | request (reason : String)
  /-- The answer was no success. -/
  | status (method : Method) (path : String) (code : UInt16)
  /-- The answer was not the expected document. -/
  | decode (reason : String)
  /-- There is no backend to call outside the browser. -/
  | unavailable
  deriving DecidableEq

/-- The notice of a failure. -/
def Failure.message : Failure → String
  | request reason => "request failed: " ++ reason
  | status method path code => method.name ++ " " ++ path ++ " failed: " ++ toString code
  | decode reason => "response decode failed: " ++ reason
  | unavailable => "not available on server"

/-- The calls of the backend. -/
inductive Call where
  | fetchCurrentUser
  | fetchCourse
  | fetchReviews
  | fetchSubmission
  | updateEnrollment
  | createGroup
  | updateGroup
  | updateReview
  | releaseSubmission
  deriving DecidableEq

/-- The failure of a call outside the browser. Asking for the signed-in user does not fail:
there is none. -/
def Call.serverFailure? : Call → Option Failure
  | fetchCurrentUser => none
  | _ => some .unavailable

end Coursework.Api
