import Coursework.Action
import Coursework.Text.Search

/-!
# The member table

The members of a course as teachers see them: sorted by role or identifier, searched by name,
and with buttons for what can be done with each. Every button stands for one change of role.
-/

namespace Coursework.Members

/-- What the table is sorted by. -/
inductive SortKey where
  | status
  | id
  deriving DecidableEq

/-- The order of the table. -/
structure TableSort where
  key : SortKey
  descending : Bool
  deriving DecidableEq

namespace TableSort

/-- By role, ascending. -/
def initial : TableSort := ⟨.status, false⟩

/-- A click on a header chooses its key and turns the direction. -/
def clicked (sort : TableSort) (key : SortKey) : TableSort := ⟨key, !sort.descending⟩

end TableSort

/-- The first enrollment does not come after the second by role. -/
def byStatus (a b : Enrollment) : Bool := a.status.rank ≤ b.status.rank

/-- The first enrollment does not come after the second by identifier. -/
def byId (a b : Enrollment) : Bool := a.id ≤ b.id

/-- The comparison for each key. -/
def comparisons : List (SortKey × (Enrollment → Enrollment → Bool)) :=
  [(.status, byStatus), (.id, byId)]

/-- The first enrollment does not come after the second by the key, ascending. A key without a
comparison would compare by role. -/
def enrollmentLe (key : SortKey) : Enrollment → Enrollment → Bool :=
  ((comparisons.find? (·.1 = key)).map (·.2)).getD byStatus

/-- The enrollments in the order of the sort. Equal ones keep their order in both directions. -/
def sorted (enrollments : List Enrollment) (sort : TableSort) : List Enrollment :=
  if sort.descending then enrollments.mergeSort fun a b => enrollmentLe sort.key b a
  else enrollments.mergeSort (enrollmentLe sort.key)

/-- The sorted enrollments whose user the query finds. -/
def visible (enrollments : List Enrollment) (sort : TableSort) (query : String) : List Enrollment :=
  (sorted enrollments sort).filter fun e => Text.found query e.userName

/-- The action that gives an enrollment a role. -/
def statusUpdate (enrollment : Enrollment) (status : EnrollmentStatus) : Action :=
  .updateEnrollmentStatus enrollment.courseId enrollment.id status

/-- All who wait for approval become students. -/
def approveAll (enrollments : List Enrollment) : List Action :=
  (enrollments.filter (·.isPending)).map (statusUpdate · .student)

/-- What can be done with a member. -/
inductive MemberAction where
  | accept
  | reject
  | promote
  | demote
  deriving DecidableEq

namespace MemberAction

/-- The button's text. -/
def label : MemberAction → String
  | accept => "Accept"
  | reject => "Reject"
  | promote => "Promote"
  | demote => "Demote"

/-- The role that the member gets. -/
def target : MemberAction → EnrollmentStatus
  | accept | demote => .student
  | reject => .none
  | promote => .teacher

/-- The question that is asked first. -/
def confirmation (name : String) : MemberAction → Option String
  | accept => none
  | reject => some "WARNING! Rejecting a student is irreversible. Are you sure?"
  | promote => some ("Are you sure you want to promote " ++ name ++ " to teacher status?")
  | demote => some ("Warning! " ++ name ++ " is a teacher. Are you sure you want to demote?")

/-- The action that the button stands for. -/
def intent (enrollment : Enrollment) (action : MemberAction) : Action :=
  statusUpdate enrollment action.target

end MemberAction

/-- The buttons of a row. Those who wait can be accepted or rejected at any time; roles change in
edit mode only. -/
def rowActions (enrollment : Enrollment) (editMode : Bool) : List MemberAction :=
  if enrollment.isPending then [.accept, .reject]
  else if editMode then [if enrollment.isTeacher then .demote else .promote, .reject]
  else []

end Coursework.Members
