import Coursework.User

/-!
# Enrollments and groups

The members of a course with their roles, and the groups that students form.
-/

namespace Coursework

/-- The role of a user in a course. -/
inductive EnrollmentStatus where
  | none
  | pending
  | student
  | teacher
  deriving DecidableEq

/-- There is no role at first. -/
instance : Inhabited EnrollmentStatus := ⟨.none⟩

namespace EnrollmentStatus

/-- The role in words. -/
def label : EnrollmentStatus → String
  | none => "None"
  | pending => "Pending"
  | student => "Student"
  | teacher => "Teacher"

/-- The classes of the pill that shows the role. -/
def badgeClass : EnrollmentStatus → String
  | none => "badge badge-secondary"
  | pending => "badge badge-warning"
  | student => "badge badge-primary"
  | teacher => "badge badge-danger"

/-- The place of the role in the order of roles. -/
def rank : EnrollmentStatus → Nat
  | none => 0
  | pending => 1
  | student => 2
  | teacher => 3

end EnrollmentStatus

/-- A user's membership in a course. -/
structure Enrollment where
  id : Id
  courseId : Id
  userId : Id
  user : Option User
  status : EnrollmentStatus
  /-- The group of the user, or zero. -/
  groupId : Id
  slipDaysRemaining : Int32
  lastActivityDate : String
  totalApproved : UInt32
  deriving DecidableEq, Inhabited

namespace Enrollment

/-- The name of the user, empty if the user is not known. -/
def userName (enrollment : Enrollment) : String :=
  match enrollment.user with
  | some user => user.name
  | none => ""

def isPending (enrollment : Enrollment) : Bool := enrollment.status == .pending
def isStudent (enrollment : Enrollment) : Bool := enrollment.status == .student
def isTeacher (enrollment : Enrollment) : Bool := enrollment.status == .teacher

end Enrollment

/-- Whether the teachers have approved a group. -/
inductive GroupStatus where
  | pending
  | approved
  deriving DecidableEq

/-- A new group waits for approval. -/
instance : Inhabited GroupStatus := ⟨.pending⟩

/-- The state of a group in words. -/
def GroupStatus.label : GroupStatus → String
  | pending => "Pending"
  | approved => "Approved"

/-- A group of students. A group with the identifier zero is a draft that is not stored yet. -/
structure Group where
  id : Id
  courseId : Id
  name : String
  status : GroupStatus
  users : List User
  deriving DecidableEq, Inhabited

namespace Group

def isApproved (group : Group) : Bool := group.status == .approved

/-- The members, by identifier. -/
def userIds (group : Group) : List Id := group.users.map (·.id)

/-- The name of an approved group is fixed. -/
def nameEditable (group : Group) : Bool := !group.isApproved

end Group

end Coursework
