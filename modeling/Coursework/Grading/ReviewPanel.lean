import Coursework.Action

/-!
# Review panels

What is shown about the review of the selected submission, with the two buttons by which it is
marked ready and released.
-/

namespace Coursework.Grading

/-- A button that turns something on or off. -/
structure Toggle where
  label : String
  enabled : Bool
  /-- The value that a click asks for. -/
  next : Bool
  deriving DecidableEq

/-- The action of a click, none while the button is disabled. -/
def Toggle.intent? (toggle : Toggle) (action : Bool → ReviewAction) : Option Action :=
  if toggle.enabled then some (.review (action toggle.next)) else none

theorem Toggle.intent?_eq_some_iff {toggle : Toggle} {request : Bool → ReviewAction}
    {action : Action} :
    toggle.intent? request = some action ↔
      toggle.enabled = true ∧ action = .review (request toggle.next) := by
  unfold Toggle.intent?
  split
  · rename_i enabled
    simp [enabled, eq_comm]
  · rename_i disabled
    simp [disabled]

/-- What is shown about a review. -/
structure ReviewPanel where
  assignmentName : String
  reviewer : String
  submissionStatus : String
  reviewStatus : String
  score : UInt32
  edited : String
  graded : Nat
  total : Nat
  ready : Toggle
  release : Toggle
  deriving DecidableEq

/-- A review becomes ready when all criteria are graded. It can always be taken back. -/
def canMarkReady (graded total : Nat) (ready : Bool) : Bool :=
  graded == total || ready

theorem canMarkReady_iff {graded total : Nat} {ready : Bool} :
    canMarkReady graded total ready = true ↔ graded = total ∨ ready = true := by
  simp [canMarkReady]

/-- The status that the owner of a submission sees. A submission without a single owner has
none. -/
def ownerStatus : Option Submission → String
  | none => "No Submission"
  | some s => if 0 < s.userId then (s.statusFor s.userId).label else SubmissionStatus.none.label

/-- The panel of a review; none if there is no review. -/
def reviewPanel? (review : Option Review) (submission : Option Submission)
    (assignmentName reviewerName : String) (isCreator : Bool) : Option ReviewPanel :=
  review.map fun review =>
    let released := submission.any (·.released)
    { assignmentName
      reviewer := reviewerName
      submissionStatus := ownerStatus submission
      reviewStatus := if review.ready then "Ready" else "In progress"
      score := review.score
      edited := review.edited
      graded := review.gradedCount
      total := review.criteriaTotal
      ready :=
        { label := if review.ready then "Mark In progress" else "Mark Ready"
          enabled := canMarkReady review.gradedCount review.criteriaTotal review.ready
          next := !review.ready }
      release :=
        { label := if released then "Released" else "Release"
          enabled := isCreator
          next := !released } }

/-- The panel of the store: the current review of the selected submission. -/
def storePanel? (store : Store) : Option ReviewPanel :=
  let submission := store.selection.selectedSubmission
  let review := submission.bind fun s => store.review.currentReview? s.id store.auth.selfId
  let assignment := submission.bind fun s => store.course.assignment? s.assignmentId
  let reviewer := review.bind fun r => store.course.user? r.reviewerId
  reviewPanel? review submission ((assignment.map (·.name)).getD "")
    ((reviewer.map (·.name)).getD "") (store.course.isCreator store.auth.selfId)

end Coursework.Grading
