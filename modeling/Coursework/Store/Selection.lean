import Coursework.Enrollment
import Coursework.Submission

/-!
# The selection

What the signed-in user looks at on the screens of a course: the group that is edited, the
member, submission and assignment in focus, and how the submission matrix is shown.
-/

namespace Coursework

/-- What the rows of the matrix are sorted by. -/
inductive MatrixSortKey where
  | name
  | id
  /-- The number of approved submissions. -/
  | approved
  deriving DecidableEq

namespace MatrixSortKey

/-- All keys, in the order in which they are offered. -/
def all : List MatrixSortKey := [name, id, approved]

/-- The key in words. -/
def label : MatrixSortKey → String
  | name => "Name"
  | id => "ID"
  | approved => "Approved"

end MatrixSortKey

/-- The order of the rows of the matrix. -/
structure MatrixSort where
  key : MatrixSortKey
  ascending : Bool
  deriving DecidableEq

namespace MatrixSort

/-- By name. -/
def initial : MatrixSort := ⟨.name, true⟩

/-- Choosing the key in use turns the direction; another key begins ascending. -/
def toggled (sort : MatrixSort) (key : MatrixSortKey) : MatrixSort :=
  if sort.key = key then ⟨key, !sort.ascending⟩ else ⟨key, true⟩

end MatrixSort

/-- What is in focus. -/
structure Selection where
  /-- The group that is made or edited. -/
  activeGroup : Option Group
  activeEnrollment : Option Enrollment
  selectedSubmission : Option Submission
  selectedAssignmentId : Option Id
  /-- The matrix shows groups, not members. -/
  groupView : Bool
  submissionSort : MatrixSort
  deriving DecidableEq

namespace Selection

/-- Nothing is in focus. -/
def initial : Selection := ⟨none, none, none, none, false, .initial⟩

/-- Takes in a newer copy of the submission in focus; any other submission changes nothing. -/
def refreshSubmission (selection : Selection) (submission : Submission) : Selection :=
  match selection.selectedSubmission with
  | some selected =>
    if selected.id = submission.id then { selection with selectedSubmission := some submission }
    else selection
  | none => selection

end Selection

end Coursework
