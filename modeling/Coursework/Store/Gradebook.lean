import Coursework.Snapshot
import Coursework.Store.Upsert

/-!
# The gradebook

What the backend last told about one course: its assignments, members, groups and submissions.
The gradebook changes only by what the backend sends, which is a whole snapshot or one changed
entry.
-/

namespace Coursework

/-- A row of the submission matrix: a member of the course on their own, or a group. -/
inductive Owner where
  | enrollment (enrollment : Enrollment)
  | group (group : Group)
  deriving DecidableEq

namespace Owner

/-- The name of the member or of the group. -/
def name : Owner → String
  | enrollment e => e.userName
  | group g => g.name

/-- What stands in the column for identifiers. -/
def idLabel : Owner → String
  | enrollment e =>
    match e.user with
    | some user => user.studentId
    | none => ""
  | group g => toString g.id

/-- The identifier by which rows are sorted. -/
def sortId : Owner → Id
  | enrollment e => e.userId
  | group g => g.id

/-- The enrollment of a member, none for a group. -/
def enrollment? : Owner → Option Enrollment
  | enrollment e => some e
  | group _ => none

/-- A submission of this assignment is the owner's. A group delivers as a group; a member of a
group delivers a group lab with the group, and everything else alone. -/
def owns (owner : Owner) (assignment : Assignment) (submission : Submission) : Bool :=
  match owner with
  | group g => submission.groupId == g.id
  | enrollment e =>
    if assignment.isGroupLab && 0 < e.groupId then submission.groupId == e.groupId
    else submission.userId == e.userId && submission.groupId == 0

end Owner

/-- All that is known of one course. -/
structure Gradebook where
  courseId : Id
  course : Option Course
  assignments : List Assignment
  enrollments : List Enrollment
  groups : List Group
  submissions : List Submission
  loaded : Bool
  loading : Bool
  /-- The last failure, shown as a notice. -/
  notice : Option String
  deriving DecidableEq

namespace Gradebook

/-- Nothing is known yet. -/
def empty : Gradebook := ⟨0, none, [], [], [], [], false, false, none⟩

/-- Takes in a snapshot in the place of all that was known. Assignments are put in their order;
a notice stays. -/
def load (book : Gradebook) (snapshot : Snapshot) : Gradebook :=
  { book with
    courseId := snapshot.course.id
    course := some snapshot.course
    assignments := snapshot.assignments.mergeSort fun a b => a.order ≤ b.order
    enrollments := snapshot.enrollments
    groups := snapshot.groups
    submissions := snapshot.submissions
    loaded := true
    loading := false }

/-- Takes in a changed enrollment. One without a role leaves the course. -/
def replaceEnrollment (book : Gradebook) (enrollment : Enrollment) : Gradebook :=
  { book with
    enrollments :=
      if enrollment.status = .none then book.enrollments.filter (·.id != enrollment.id)
      else Store.upsert (·.id) enrollment book.enrollments }

/-- Takes in a group. The enrollments of its members point at it. -/
def upsertGroup (book : Gradebook) (group : Group) : Gradebook :=
  { book with
    enrollments := book.enrollments.map fun e =>
      if e.userId ∈ group.userIds then { e with groupId := group.id } else e
    groups := Store.upsert (·.id) group book.groups }

/-- Takes in a submission. -/
def replaceSubmission (book : Gradebook) (submission : Submission) : Gradebook :=
  { book with submissions := Store.upsert (·.id) submission book.submissions }

/-- The assignment of that identifier. -/
def assignment? (book : Gradebook) (id : Id) : Option Assignment :=
  Store.find? (·.id) id book.assignments

/-- The enrollment of a user. -/
def enrollmentOf? (book : Gradebook) (userId : Id) : Option Enrollment :=
  Store.find? (·.userId) userId book.enrollments

/-- The user of that identifier, if enrolled and known. -/
def user? (book : Gradebook) (userId : Id) : Option User :=
  (book.enrollmentOf? userId).bind (·.user)

/-- The user teaches the course. -/
def isTeacher (book : Gradebook) (userId : Id) : Bool :=
  (book.enrollmentOf? userId).any (·.isTeacher)

/-- The user created the course. -/
def isCreator (book : Gradebook) (userId : Id) : Bool :=
  book.course.any (·.creatorId == userId)

theorem isCreator_iff {book : Gradebook} {userId : Id} :
    book.isCreator userId = true ↔
      ∃ course, book.course = some course ∧ course.creatorId = userId := by
  simp [isCreator, Option.any_eq_true]

/-- The enrollments that wait for approval. -/
def pending (book : Gradebook) : List Enrollment :=
  book.enrollments.filter (·.isPending)

/-- The rows of the matrix before search and sorting: in group view the groups, otherwise the
students and teachers. -/
def owners (book : Gradebook) (groupView : Bool) : List Owner :=
  if groupView then book.groups.map .group
  else (book.enrollments.filter fun e => e.isStudent || e.isTeacher).map .enrollment

/-- What the owner delivered for the assignment. -/
def submissionFor? (book : Gradebook) (owner : Owner) (assignment : Assignment) :
    Option Submission :=
  book.submissions.find? fun s => s.assignmentId == assignment.id && owner.owns assignment s

/-- What the user delivered for the assignment, alone or with a group. -/
def submissionOf? (book : Gradebook) (userId : Id) (assignment : Assignment) :
    Option Submission :=
  (book.enrollmentOf? userId).bind fun e => book.submissionFor? (.enrollment e) assignment

/-- The number of assignments for which the owner has an approved submission. -/
def approvedCount (book : Gradebook) (owner : Owner) : Nat :=
  (book.assignments.filterMap (book.submissionFor? owner)).countP (·.status = .approved)

end Gradebook

end Coursework
