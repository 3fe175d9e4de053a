import Coursework.Action
import Coursework.Grading.Status
import Coursework.Text.Search

/-!
# The submission matrix

Members of a course (or groups) against its assignments. The results screen shows scores and the
review screen the progress of reviews. The first column has the names; a column of identifiers
follows it if some assignment shown is graded by reviewers.
-/

namespace Coursework.Grading

/-- The screen that the matrix is part of. -/
inductive MatrixMode where
  | normal
  | review
  deriving DecidableEq

/-- A cell of the header, with the order of rows that a click on it chooses. -/
structure HeaderCell where
  label : String
  sort : Option MatrixSortKey
  deriving DecidableEq

/-- What a click on a cell selects: a submission, and its owner if that is one member. -/
structure CellClick where
  submission : Submission
  enrollment : Option Enrollment
  deriving DecidableEq

/-- A cell. -/
structure Cell where
  value : String
  classes : List String
  click : Option CellClick
  deriving DecidableEq

/-- A cell with a text only. -/
def Cell.plain (value : String) : Cell := ⟨value, [], none⟩

/-- The classes of a cell as one text. -/
def Cell.cssClass (cell : Cell) : String := " ".intercalate cell.classes

/-- What cells depend on besides their row and column. -/
structure MatrixContext where
  course : Gradebook
  review : ReviewBook
  selectedSubmissionId : Option Id
  selfId : Id

/-- The assignments with a column. A positive filter keeps the assignment of that identifier
only, and group view the group labs only. -/
def visibleAssignments (assignments : List Assignment) (filter : Int64) (groupView : Bool) :
    List Assignment :=
  assignments.filter fun a =>
    (filter ≤ 0 || (a.id.toNat : Int) == filter.toInt) && (!groupView || a.isGroupLab)

/-- The filter of the results screen: the selected assignment, if a signed number of 64 bits
holds its identifier; otherwise all. -/
def filterOf (selected : Option Id) : Int64 :=
  match selected with
  | some id => if id.toNat ≤ 0x7FFFFFFFFFFFFFFF then Int64.ofNat id.toNat else -1
  | none => -1

/-- Identifiers are shown if reviewers grade some assignment. -/
def withIdColumn (visible : List Assignment) : Bool :=
  visible.any (·.isManuallyGraded)

/-- The header. -/
def header (visible : List Assignment) (withId : Bool) : List HeaderCell :=
  let sortable (key : MatrixSortKey) : HeaderCell := ⟨key.label, some key⟩
  [sortable .name] ++ (if withId then [sortable .id] else []) ++
    visible.map fun a => ⟨a.name, none⟩

/-- The first owner does not come after the second by the key, ascending. -/
def ownerLe (course : Gradebook) (key : MatrixSortKey) (a b : Owner) : Bool :=
  match key with
  | .name => Text.lowercase a.name ≤ Text.lowercase b.name
  | .id => a.sortId ≤ b.sortId
  | .approved => course.approvedCount a ≤ course.approvedCount b

/-- The owners of the rows: those that the query finds, in the order of the sort. Equal ones
keep the order of the course in both directions. -/
def sortedOwners (course : Gradebook) (groupView : Bool) (query : String) (sort : MatrixSort) :
    List Owner :=
  let found := (course.owners groupView).filter fun owner => Text.found query owner.name
  if sort.ascending then found.mergeSort (ownerLe course sort.key)
  else found.mergeSort fun a b => ownerLe course sort.key b a

/-- What a click on the owner's submission selects. -/
def clickFor (submission : Submission) (owner : Owner) : CellClick :=
  ⟨submission, owner.enrollment?⟩

/-- The class of the selected submission's cell. -/
def selectedClass (context : MatrixContext) (submission : Submission) : List String :=
  if context.selectedSubmissionId = some submission.id then ["selected"] else []

/-- A cell of the results screen: the score. -/
def scoreCell (context : MatrixContext) (submission : Submission) (owner : Owner) : Cell where
  value := toString submission.displayScore ++ "%"
  classes := cellClass submission.status :: selectedClass context submission
  click := some (clickFor submission owner)

/-- The mean score of the submission's reviews reaches the release threshold. -/
def willBeReleased (review : ReviewBook) (submissionId : Id) : Bool :=
  0 < review.minimumScore &&
    (review.averageScore? submissionId).any fun mean =>
      Numeral.Binary64.ble (.ofNat review.minimumScore.toNat) mean

/-- The reader still has a review of the submission to finish. -/
def isPendingFor (review : ReviewBook) (submissionId selfId : Id) : Bool :=
  (review.reviewsFor submissionId).any fun r => !r.ready && r.reviewerId == selfId

/-- A cell of the review screen: the number of reviews out of those wanted. -/
def reviewCell (context : MatrixContext) (submission : Submission) (assignment : Assignment)
    (owner : Owner) : Cell :=
  if assignment.isManuallyGraded then
    { value :=
        toString (context.review.reviewsFor submission.id).length ++ "/" ++
          toString assignment.reviewers ++ if submission.released then " (r)" else ""
      classes :=
        cellClass submission.status :: selectedClass context submission ++
          (if willBeReleased context.review submission.id then ["release"] else []) ++
          (if isPendingFor context.review submission.id context.selfId then ["pending-review"]
            else [])
      click := some (clickFor submission owner) }
  else .plain "N/A"

/-- The cell of an owner and an assignment. -/
def cell (context : MatrixContext) (mode : MatrixMode) (owner : Owner) (assignment : Assignment) :
    Cell :=
  match context.course.submissionFor? owner assignment with
  | none => .plain "N/A"
  | some submission =>
    match mode with
    | .normal => scoreCell context submission owner
    | .review => reviewCell context submission assignment owner

/-- The row of an owner. -/
def row (context : MatrixContext) (visible : List Assignment) (withId : Bool) (mode : MatrixMode)
    (owner : Owner) : List Cell :=
  [.plain owner.name] ++ (if withId then [.plain owner.idLabel] else []) ++
    visible.map (cell context mode owner)

/-- The whole matrix. -/
structure Matrix where
  visible : List Assignment
  header : List HeaderCell
  owners : List Owner
  rows : List (List Cell)
  deriving DecidableEq

/-- The matrix of a course. The column of identifiers is there as `withId` says, or as the
assignments need it. -/
def matrix (context : MatrixContext) (mode : MatrixMode) (filter : Int64) (groupView : Bool)
    (query : String) (sort : MatrixSort) (withId : Option Bool) : Matrix :=
  let visible := visibleAssignments context.course.assignments filter groupView
  let shown := withId.getD (withIdColumn visible)
  let owners := sortedOwners context.course groupView query sort
  { visible
    header := header visible shown
    owners
    rows := owners.map (row context visible shown mode) }

/-- What the matrix of the store depends on. -/
def storeContext (store : Store) : MatrixContext :=
  ⟨store.course, store.review, store.selection.selectedSubmission.map (·.id), store.auth.selfId⟩

/-- The filter of a screen. -/
def storeFilter (store : Store) : MatrixMode → Int64
  | .review => store.review.assignmentId
  | .normal => filterOf store.selection.selectedAssignmentId

/-- The matrix of the store under a filter. -/
def storeMatrix (store : Store) (mode : MatrixMode) (filter : Int64) (query : String) : Matrix :=
  matrix (storeContext store) mode filter store.selection.groupView query
    store.selection.submissionSort none

/-- The actions of a click: the submission is selected, a member in focus, and no review picked.
The results screen also asks the backend for the submission. -/
def clickActions (click : CellClick) (mode : MatrixMode) (courseId : Id) : List Action :=
  [.setSelectedSubmission (some click.submission)] ++
    (match click.enrollment with
      | some e => [.setActiveEnrollment (some e)]
      | none => []) ++
    [.review (.setSelectedReview none)] ++
    (if mode = .normal then [.refreshSubmission courseId click.submission.id] else [])

end Coursework.Grading
