/-!
# Users

The people of the platform. Users, courses and all that belongs to them have identifiers of 64
bits, and zero is the identifier of nothing.
-/

namespace Coursework

/-- Identifiers. -/
abbrev Id := UInt64

/-- A user of the platform. -/
structure User where
  id : Id
  name : String
  email : String
  studentId : String
  avatarUrl : String
  isAdmin : Bool
  deriving DecidableEq, Inhabited

/-- The user of which nothing is known. -/
def User.blank : User := ⟨0, "", "", "", "", false⟩

end Coursework
