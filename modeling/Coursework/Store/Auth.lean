import Coursework.User

/-!
# The signed-in user
-/

namespace Coursework

/-- Who is signed in, and whether that is still being asked. -/
structure Auth where
  user : Option User
  loading : Bool
  deriving DecidableEq

/-- The identifier of the signed-in user, zero if there is none. -/
def Auth.selfId (auth : Auth) : Id :=
  match auth.user with
  | some user => user.id
  | none => 0

/-- Nobody is signed in. -/
def Auth.signedOut : Auth := ⟨none, false⟩

end Coursework
